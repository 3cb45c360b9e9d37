import UriExpansion.Proofs.Validation

namespace UriExpansion.Options

/-- Arguments with flags that are truth values. -/
def HasBooleanFlags (arguments : Bindings Datum) : Prop :=
  ∀ field ∈ Field.flags, ∀ found, arguments.get? field.name = some found →
    ∃ value, found = .boolean value

variable (arguments : Bindings Datum)

instance : Decidable (HasBooleanFlags arguments) :=
  decidable_of_iff
    (∀ field ∈ Field.flags,
      (arguments.get? field.name).all (fun found => found.boolean?.isSome) = true)
    (by simp only [Option.all_eq_true, Option.isSome_iff_exists, Datum.boolean?_eq_some_iff]; rfl)

/-- The arguments are the entries of a mapping with their names as keys. -/
def entriesOf : List (Datum × Datum) :=
  arguments.entries.map fun entry => (.text (.ofText entry.1), entry.2)

/-- The names that name no field, in the order of the arguments. -/
def unknownNames : List Text :=
  arguments.names.filter fun name => ¬ NamesField (.text (.ofText name))

/-- The policy that is given but not accepted. -/
def refusedPolicy? : Option Datum :=
  (arguments.get? Field.onMalformed.name).filter fun found => ¬ Field.onMalformed.Accepts found

/-- Each unknown name is a problem, and so is a refused policy. -/
def argumentProblems : List Problem :=
  (unknownNames arguments).map (fun name => .unknownField (.text (.ofText name))) ++
    (refusedPolicy? arguments).toList.map .badPolicy

theorem field?_entriesOf (name : Text) :
    Datum.field? name (entriesOf arguments) = arguments.get? name := by
  obtain ⟨entries, _⟩ := arguments
  simp only [entriesOf, Bindings.get?]
  clear * -
  induction entries with
  | nil => rfl
  | cons entry rest inductionHypothesis =>
      rw [List.map_cons, Datum.field?, Bindings.find, inductionHypothesis]
      simp only [CodeText.ofText_inj]

theorem unknownKeys_entriesOf :
    unknownKeys (entriesOf arguments) =
      (unknownNames arguments).map fun name => .text (.ofText name) := by
  simp only [unknownKeys, unknownNames, entriesOf, Bindings.names, List.map_map, List.filter_map,
    Function.comp_def]

theorem refusal?_entriesOf (field : Field) :
    refusal? (entriesOf arguments) field =
      (arguments.get? field.name).filter fun found => ¬ field.Accepts found := by
  rw [refusal?, field?_entriesOf]

/-- The refused policy is one that is read as no policy. -/
theorem refusedPolicy?_eq :
    refusedPolicy? arguments =
      (arguments.get? Field.onMalformed.name).filter fun found =>
        !(MalformedPolicy.ofDatum? found).isSome := by
  have refused := refusal?_eq (entriesOf arguments) .onMalformed
  rwa [refusal?_entriesOf, field?_entriesOf] at refused

theorem find?_names_eq :
    (arguments.names.find? fun name => (Field.ofName? name).isNone) =
      (unknownNames arguments).head? := by
  have test (name : Text) :
      (Field.ofName? name).isNone = decide (¬ NamesField (.text (.ofText name))) := by
    have known : isKnownKey (.text (.ofText name)) = (Field.ofName? name).isSome := by
      rw [Bool.eq_iff_iff, Field.ofName?, List.find?_isSome, isKnownKey, List.any_eq_true]
      simp only [beq_iff_eq, CodeText.ofText_inj]
    rw [Bool.eq_iff_iff, decide_eq_true_iff, ← isKnownKey_iff, known]
    simp
  simp only [test, unknownNames, List.head?_filter]

variable {arguments}

/-- The truth of a flag that holds a truth value is that value. -/
theorem flag_eq (flags : HasBooleanFlags arguments) {field : Field}
    (isFlag : field ∈ Field.flags) :
    flag arguments field = ((arguments.get? field.name).bind Datum.boolean?).getD true := by
  rw [flag]
  cases given : arguments.get? field.name with
  | none => rfl
  | some found =>
      obtain ⟨value, rfl⟩ := flags field isFlag found given
      rfl

/-- The first unknown name comes before a refused policy. -/
theorem ofArguments_eq (flags : HasBooleanFlags arguments) :
    ofArguments arguments =
      match (unknownNames arguments).head?, refusedPolicy? arguments with
      | some name, _ => .error (nameError name)
      | none, some found => .error (.badPolicy found)
      | none, none => .ok (ofEntries (entriesOf arguments)) := by
  have encode : Field.encode ∈ Field.flags := by decide
  have cacheExpansions : Field.cacheExpansions ∈ Field.flags := by decide
  rw [ofArguments, find?_names_eq, refusedPolicy?_eq]
  cases (unknownNames arguments).head? with
  | some name => rfl
  | none =>
      simp only [ofEntries, field?_entriesOf, flag_eq flags encode,
        flag_eq flags cacheExpansions]
      cases arguments.get? Field.onMalformed.name with
      | none => rfl
      | some found =>
          cases policy : MalformedPolicy.ofDatum? found <;> simp [Option.filter, policy]

theorem argumentProblems_eq_nil_iff :
    argumentProblems arguments = [] ↔
      unknownNames arguments = [] ∧ refusedPolicy? arguments = none := by
  simp [argumentProblems]

theorem nameError_injective {first second : Text} (same : nameError first = nameError second) :
    first = second := by
  unfold nameError at same
  grind

theorem nameError_ne_badPolicy (name : Text) (found : Datum) :
    nameError name ≠ .badPolicy found := by
  unfold nameError
  split <;> simp

theorem ofArguments_eq_ok_iff (flags : HasBooleanFlags arguments) (options : Options) :
    ofArguments arguments = .ok options ↔
      argumentProblems arguments = [] ∧ ofEntries (entriesOf arguments) = options := by
  rw [ofArguments_eq flags, argumentProblems_eq_nil_iff, ← List.head?_eq_none_iff]
  cases (unknownNames arguments).head? with
  | some first => simp
  | none => cases refusedPolicy? arguments <;> simp

theorem ofArguments_eq_nameError_iff (flags : HasBooleanFlags arguments) (name : Text) :
    ofArguments arguments = .error (nameError name) ↔
      (unknownNames arguments).head? = some name := by
  rw [ofArguments_eq flags]
  cases (unknownNames arguments).head? with
  | some first =>
      rw [Except.error.injEq, Option.some.injEq]
      exact ⟨nameError_injective, congrArg nameError⟩
  | none =>
      cases refusedPolicy? arguments with
      | some found =>
          rw [Except.error.injEq]
          exact iff_of_false (nameError_ne_badPolicy name found).symm (by simp)
      | none => simp

theorem ofArguments_eq_badPolicy_iff (flags : HasBooleanFlags arguments) (found : Datum) :
    ofArguments arguments = .error (.badPolicy found) ↔
      unknownNames arguments = [] ∧ refusedPolicy? arguments = some found := by
  rw [ofArguments_eq flags, ← List.head?_eq_none_iff]
  cases (unknownNames arguments).head? with
  | some first => simp [nameError_ne_badPolicy]
  | none => cases refusedPolicy? arguments <;> simp

/-- Flags that are truth values leave the problems of the arguments. -/
theorem listed_entriesOf (flags : HasBooleanFlags arguments) :
    listed (entriesOf arguments) = argumentProblems arguments := by
  have accepted (field : Field) (isFlag : field ∈ Field.flags)
      (accepts : ∀ found, (∃ value, found = .boolean value) → field.Accepts found) :
      refusal? (entriesOf arguments) field = none := by
    rw [refusal?_entriesOf, Option.filter_eq_none_iff]
    intro found given
    simpa using accepts found (flags field isFlag found given)
  have encode := accepted .encode (by decide) fun _ boolean => boolean
  have cacheExpansions := accepted .cacheExpansions (by decide) fun _ boolean => boolean
  have policy : refusal? (entriesOf arguments) .onMalformed = refusedPolicy? arguments :=
    refusal?_entriesOf arguments .onMalformed
  rw [listed, unknownKeys_entriesOf, refusals, Field.checked, argumentProblems, List.map_map]
  cases refused : refusedPolicy? arguments <;>
    simp [encode, cacheExpansions, policy, refused, Field.problem]

/-- Names can always be written, so that the policy decides. -/
theorem all_isWritable_argumentProblems :
    (argumentProblems arguments).all Problem.isWritable =
      (refusedPolicy? arguments).all Datum.isWritable := by
  have names : ((unknownNames arguments).map fun name =>
      Problem.unknownField (.text (.ofText name))).all Problem.isWritable = true :=
    List.all_eq_true.mpr (List.forall_mem_map.mpr fun _ _ => rfl)
  rw [argumentProblems, List.all_append, names, Bool.true_and]
  cases refusedPolicy? arguments with
  | none => rfl
  | some found => exact Bool.and_true _

namespace Loader

variable (loader : Loader)

/-- A mapping of arguments gives its options, its problems or breaks off. -/
theorem fromDatum_entriesOf (flags : HasBooleanFlags arguments) :
    (loader.fromDatum (.mapping (entriesOf arguments))).1 =
      if (refusedPolicy? arguments).all Datum.isWritable then
        if argumentProblems arguments = [] then .ok (ofEntries (entriesOf arguments))
        else .error (.invalid (argumentProblems arguments))
      else .error .unwritable := by
  have found := listed_entriesOf flags
  cases writable : (refusedPolicy? arguments).all Datum.isWritable with
  | false =>
      rw [← all_isWritable_argumentProblems, ← found] at writable
      rw [loader.fromDatum_of_not_writable writable]
      rfl
  | true =>
      rw [if_pos rfl]
      split
      · next free =>
          have valid : IsValid (entriesOf arguments) :=
            (listed_eq_nil_iff _).mp (found.trans free)
          rw [loader.fromDatum_of_isValid valid]
      · next refused =>
          have invalid : ¬ IsValid (entriesOf arguments) := fun valid =>
            refused (found.symm.trans ((listed_eq_nil_iff _).mpr valid))
          rw [← all_isWritable_argumentProblems, ← found] at writable
          rw [loader.fromDatum_of_not_isValid invalid writable, found]

/-- Arguments and the mapping of their entries give the same options. -/
theorem ofArguments_agrees_fromDatum (arguments : Bindings Datum)
    (flags : HasBooleanFlags arguments) :
    let loaded := (loader.fromDatum (.mapping (entriesOf arguments))).1
    (∀ options, ofArguments arguments = .ok options ↔ loaded = .ok options) ∧
    (∀ name, ofArguments arguments = .error (nameError name) ↔
      (unknownNames arguments).head? = some name) ∧
    (∀ found, ofArguments arguments = .error (.badPolicy found) ↔
      unknownNames arguments = [] ∧ refusedPolicy? arguments = some found) ∧
    (∀ problems, loaded = .error (.invalid problems) ↔
      problems = argumentProblems arguments ∧
        (unknownNames arguments ≠ [] ∨ refusedPolicy? arguments ≠ none) ∧
        (refusedPolicy? arguments).all Datum.isWritable = true) ∧
    (loaded = .error .unwritable ↔ (refusedPolicy? arguments).all Datum.isWritable = false) := by
  intro loaded
  have step : loaded = _ := loader.fromDatum_entriesOf flags
  have refuses : unknownNames arguments ≠ [] ∨ refusedPolicy? arguments ≠ none ↔
      argumentProblems arguments ≠ [] := by
    rw [ne_eq (argumentProblems arguments), argumentProblems_eq_nil_iff, not_and_or]
  have free (accepted : argumentProblems arguments = []) :
      (refusedPolicy? arguments).all Datum.isWritable = true := by
    rw [(argumentProblems_eq_nil_iff.mp accepted).2]
    rfl
  refine ⟨fun options => ?_, ofArguments_eq_nameError_iff flags,
    ofArguments_eq_badPolicy_iff flags, fun problems => ?_, ?_⟩
  · rw [ofArguments_eq_ok_iff flags, step]
    by_cases accepted : argumentProblems arguments = []
    · simp [accepted, free accepted]
    · simp only [accepted, false_and, if_false, false_iff]
      split <;> simp
  · rw [refuses, step]
    split
    · next writable =>
        by_cases accepted : argumentProblems arguments = []
        · simp [accepted]
        · simp [accepted, writable, eq_comm]
    · next unwritable => simp [unwritable]
  · rw [step]
    cases writable : (refusedPolicy? arguments).all Datum.isWritable with
    | false => simp
    | true =>
        rw [if_pos rfl]
        split <;> simp

/-- Arguments fail at their first problem, and the mapping lists all three. -/
theorem ofArguments_agrees_fromDatum_three_problems :
    let policy : Datum := .list [.text (.ofText "skip".toList)]
    let arguments : Bindings Datum :=
      .ofList [("encode".toList, .boolean false), ("self".toList, .integer 1),
        ("on_malformed".toList, policy), ("timeout".toList, .null)]
    HasBooleanFlags arguments ∧ ofArguments arguments = .error (.boundName "self".toList) ∧
      (fromDatum {} (.mapping (entriesOf arguments))).1 =
        .error (.invalid [.unknownField (.text (.ofText "self".toList)),
          .unknownField (.text (.ofText "timeout".toList)), .badPolicy policy]) := by
  intro policy arguments
  have flags : HasBooleanFlags arguments := by decide +kernel
  obtain ⟨_, names, _, problems, _⟩ := ofArguments_agrees_fromDatum {} arguments flags
  exact ⟨flags, (names "self".toList).mpr rfl,
    (problems _).mpr ⟨rfl, .inl (List.cons_ne_nil _ _), rfl⟩⟩

/-- A policy that cannot be written leaves the mapping without a report. -/
theorem fromDatum_ne_invalid_of_long_argument :
    let policy : Datum := .integer (Nat.pow 10 Text.digitLimit)
    let arguments : Bindings Datum := .ofList [("on_malformed".toList, policy)]
    HasBooleanFlags arguments ∧ unknownNames arguments = [] ∧
      ofArguments arguments = .error (.badPolicy policy) ∧
      ∀ problems,
        (fromDatum {} (.mapping (entriesOf arguments))).1 ≠ .error (.invalid problems) := by
  intro policy arguments
  have flags : HasBooleanFlags arguments := by decide +kernel
  have refused : refusedPolicy? arguments = some policy := rfl
  have long : policy.isWritable = false := by
    rw [Bool.eq_false_iff, Ne, Datum.isWritable_integer_iff, Int.natAbs_natCast]
    exact Nat.lt_irrefl _
  refine ⟨flags, rfl, (ofArguments_eq_badPolicy_iff flags policy).mpr ⟨rfl, refused⟩,
    fun problems => ?_⟩
  rw [fromDatum_entriesOf {} flags, refused, Option.all_some, long]
  exact fun reported => by cases reported

end Loader

end UriExpansion.Options
