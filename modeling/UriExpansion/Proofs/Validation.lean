import Mathlib.Data.List.Basic
import UriExpansion.Proofs.LoaderSession

namespace UriExpansion

theorem Datum.boolean?_eq_some_iff (found : Datum) (value : Bool) :
    found.boolean? = some value ↔ found = .boolean value := by
  cases found <;> simp [boolean?]

theorem MalformedPolicy.ofDatum?_eq_some_iff (found : Datum) (policy : MalformedPolicy) :
    ofDatum? found = some policy ↔ found = .text (.ofText policy.name) := by
  constructor
  · intro selected
    cases found with
    | text text =>
        have same : CodeText.ofText policy.name = text := by simpa using List.find?_some selected
        rw [same]
    | _ => cases selected
  · rintro rfl
    cases policy <;> rfl

namespace Options

/-- The datum of an option. -/
def datum (options : Options) : Field → Datum
  | .encode => .boolean options.encode
  | .onMalformed => .text (.ofText options.onMalformed.name)
  | .cacheExpansions => .boolean options.cacheExpansions

/-- A key names a field if it is the text of the name. -/
def NamesField (key : Datum) : Prop :=
  ∃ field : Field, key = .text (.ofText field.name)

theorem isKnownKey_iff (key : Datum) : isKnownKey key = true ↔ NamesField key := by
  constructor
  · intro known
    cases key with
    | text name =>
        obtain ⟨field, _, same⟩ := List.any_eq_true.mp known
        exact ⟨field, by rw [eq_of_beq same]⟩
    | _ => cases known
  · rintro ⟨field, rfl⟩
    cases field <;> rfl

instance (key : Datum) : Decidable (NamesField key) :=
  decidable_of_iff _ (isKnownKey_iff key)

namespace Field

/-- The policy takes one of its names, and a flag a truth value. -/
def Accepts : Field → Datum → Prop
  | .onMalformed, found =>
      found = .text (.ofText "raise".toList) ∨ found = .text (.ofText "skip".toList)
  | _, found => ∃ value, found = .boolean value

/-- The test of a field. -/
def accepts : Field → Datum → Bool
  | .onMalformed, found => (MalformedPolicy.ofDatum? found).isSome
  | _, found => found.boolean?.isSome

theorem accepts_iff (field : Field) (found : Datum) :
    field.accepts found = true ↔ field.Accepts found := by
  have flag : found.boolean?.isSome = true ↔ ∃ value, found = .boolean value := by
    simp only [Option.isSome_iff_exists, Datum.boolean?_eq_some_iff]
  have policy : (MalformedPolicy.ofDatum? found).isSome = true ↔
      found = .text (.ofText "raise".toList) ∨ found = .text (.ofText "skip".toList) := by
    simp only [Option.isSome_iff_exists, MalformedPolicy.ofDatum?_eq_some_iff]
    constructor
    · rintro ⟨_ | _, same⟩
      · exact .inl same
      · exact .inr same
    · rintro (same | same)
      · exact ⟨.raise, same⟩
      · exact ⟨.skip, same⟩
  cases field with
  | encode => exact flag
  | onMalformed => exact policy
  | cacheExpansions => exact flag

instance (field : Field) (found : Datum) : Decidable (field.Accepts found) :=
  decidable_of_iff _ (field.accepts_iff found)

/-- The problem of a field with a datum that it does not accept. -/
def problem : Field → Datum → Problem
  | .onMalformed, found => .badPolicy found
  | field, found => .notBoolean field found

/-- The flags are checked before the policy. -/
def checked : List Field :=
  [.encode, .cacheExpansions, .onMalformed]

end Field

variable (entries : List (Datum × Datum))

/-- A valid mapping has known keys and accepted data. -/
structure IsValid : Prop where
  named : ∀ entry ∈ entries, NamesField entry.1
  accepted : ∀ (field : Field) (found : Datum),
    Datum.field? field.name entries = some found → field.Accepts found

/-- The keys that name no field, in the order of the mapping. -/
def unknownKeys : List Datum :=
  (entries.map Prod.fst).filter fun key => ¬ NamesField key

/-- The datum of a field that is given but not accepted. -/
def refusal? (field : Field) : Option Datum :=
  (Datum.field? field.name entries).filter fun found => ¬ field.Accepts found

/-- The fields that are given but not accepted, in the order of the checks. -/
def refusals : List (Field × Datum) :=
  Field.checked.filterMap fun field => (refusal? entries field).map fun found => (field, found)

/-- Unknown keys and refused fields are problems. -/
def listed : List Problem :=
  (unknownKeys entries).map .unknownField ++
    (refusals entries).map fun refusal => refusal.1.problem refusal.2

theorem keyProblems_eq : keyProblems entries = (unknownKeys entries).map .unknownField := by
  have test (key : Datum) : (!isKnownKey key) = decide (¬ NamesField key) := by
    simp [← isKnownKey_iff]
  rw [keyProblems, unknownKeys, List.filter_map, List.map_map]
  simp only [test]
  rfl

theorem refusal?_eq (field : Field) :
    refusal? entries field =
      (Datum.field? field.name entries).filter fun found => !field.accepts found := by
  have test (found : Datum) : decide (¬ field.Accepts found) = !field.accepts found := by
    simp [← field.accepts_iff]
  simp only [refusal?, test]

/-- The problem of a field that is given and not accepted. -/
theorem map_problem_refusal?_eq (field : Field) :
    ((refusal? entries field).map field.problem).toList =
      match Datum.field? field.name entries with
      | some found => if field.accepts found then [] else [field.problem found]
      | none => [] := by
  rw [refusal?_eq]
  cases Datum.field? field.name entries with
  | none => rfl
  | some found => cases accepted : field.accepts found <;> simp [Option.filter, accepted]

/-- The problems of the flags and of the policy are those of the refusals. -/
theorem fieldProblems_eq :
    Field.flags.flatMap (flagProblems entries) ++ policyProblems entries =
      (refusals entries).map fun refusal => refusal.1.problem refusal.2 := by
  -- Each check is the general one for its own field, by unfolding.
  have encode : flagProblems entries .encode = _ := (map_problem_refusal?_eq entries .encode).symm
  have cacheExpansions : flagProblems entries .cacheExpansions = _ :=
    (map_problem_refusal?_eq entries .cacheExpansions).symm
  have onMalformed : policyProblems entries = _ :=
    (map_problem_refusal?_eq entries .onMalformed).symm
  have refused (field : Field) :
      ((refusal? entries field).map fun found => (field, found)).map
          (fun refusal => refusal.1.problem refusal.2) =
        (refusal? entries field).map field.problem := by
    rw [Option.map_map]
    rfl
  rw [refusals, List.map_filterMap]
  simp only [refused, List.filterMap_eq_flatMap_toList, Field.checked, Field.flags,
    List.flatMap_cons, List.flatMap_nil, encode, cacheExpansions, onMalformed,
    List.append_assoc, List.append_nil]

theorem problems_eq_listed : problems entries = listed entries := by
  rw [problems, List.append_assoc, keyProblems_eq, fieldProblems_eq]
  rfl

theorem unknownKeys_eq_nil_iff :
    unknownKeys entries = [] ↔ ∀ entry ∈ entries, NamesField entry.1 := by
  simp [unknownKeys]

theorem refusals_eq_nil_iff :
    refusals entries = [] ↔ ∀ (field : Field) (found : Datum),
      Datum.field? field.name entries = some found → field.Accepts found := by
  have checked (field : Field) : field ∈ Field.checked := by
    cases field <;> decide
  simp only [refusals, List.filterMap_eq_nil_iff, checked, true_imp_iff, Option.map_eq_none_iff,
    refusal?, Option.filter_eq_none_iff, decide_eq_true_iff, not_not]

/-- A mapping without problems is valid. -/
theorem listed_eq_nil_iff : listed entries = [] ↔ IsValid entries := by
  rw [listed, List.append_eq_nil_iff, List.map_eq_nil_iff, List.map_eq_nil_iff,
    unknownKeys_eq_nil_iff, refusals_eq_nil_iff]
  exact ⟨fun ⟨named, accepted⟩ => ⟨named, accepted⟩,
    fun valid => ⟨valid.named, valid.accepted⟩⟩

instance : Decidable (IsValid entries) :=
  decidable_of_iff ((listed entries).isEmpty = true)
    (by rw [List.isEmpty_iff, listed_eq_nil_iff])

theorem map_path_listed :
    (listed entries).map (fun problem => problem.notice.path) =
      (unknownKeys entries).map Datum.display ++
        (refusals entries).map fun refusal => .ofText refusal.1.name := by
  have path (field : Field) (found : Datum) :
      (field.problem found).notice.path = .ofText field.name := by
    cases field <;> rfl
  rw [listed, List.map_append, List.map_map, List.map_map]
  simp only [Function.comp_def, path]
  rfl

variable {entries}

/-- Valid entries are the data of their options or absent. -/
theorem datum_ofEntries (valid : IsValid entries) (field : Field) :
    (ofEntries entries).datum field =
      (Datum.field? field.name entries).getD (({} : Options).datum field) := by
  have flag (given : Option Datum)
      (accepted : ∀ found, given = some found → ∃ value, found = .boolean value) :
      Datum.boolean ((given.bind Datum.boolean?).getD true) = given.getD (.boolean true) := by
    cases given with
    | none => rfl
    | some found =>
        obtain ⟨value, rfl⟩ := accepted found rfl
        rfl
  have accepted := valid.accepted field
  cases field with
  | encode => exact flag _ accepted
  | onMalformed =>
      simp only [datum, ofEntries]
      cases given : Datum.field? Field.onMalformed.name entries with
      | none => rfl
      | some found =>
          obtain rfl | rfl := accepted found given
          · rfl
          · rfl
  | cacheExpansions => exact flag _ accepted

namespace Loader

variable (loader : Loader)

theorem fromDatum_of_isValid (valid : IsValid entries) :
    loader.fromDatum (.mapping entries) = (.ok (ofEntries entries), {}) := by
  have free : Options.problems entries = [] := by
    rw [problems_eq_listed, (listed_eq_nil_iff entries).mpr valid]
  simp only [fromDatum_eq, settle, problemsOf_mapping, ofDatum, free]
  rfl

theorem fromDatum_of_not_isValid (invalid : ¬ IsValid entries)
    (writable : (listed entries).all Problem.isWritable = true) :
    loader.fromDatum (.mapping entries) =
      (.error (.invalid (listed entries)), { problems := listed entries }) := by
  have present : (listed entries).isEmpty = false := by
    simpa [listed_eq_nil_iff] using invalid
  simp only [fromDatum_eq, settle, problemsOf_mapping, ofDatum, problems_eq_listed, present]
  rw [if_pos writable]
  rfl

theorem fromDatum_of_not_writable (unwritable : (listed entries).all Problem.isWritable = false) :
    (loader.fromDatum (.mapping entries)).1 = .error .unwritable := by
  simp only [fromDatum_eq, settle, problemsOf_mapping, problems_eq_listed, unwritable]
  rfl

/-- A document gives options or all its problems unless writing one fails. -/
theorem fromDatum_accepts_or_lists :
    (∀ entries : List (Datum × Datum),
      let step := loader.fromDatum (.mapping entries)
      ((∃ options, step.1 = .ok options) ↔ IsValid entries) ∧
      (∀ options, step.1 = .ok options → ∀ field : Field,
        options.datum field =
          (Datum.field? field.name entries).getD (({} : Options).datum field)) ∧
      (¬ IsValid entries → listed entries ≠ [] ∧
        ((listed entries).all Problem.isWritable = true →
          step = (.error (.invalid (listed entries)), { problems := listed entries })) ∧
        ((listed entries).all Problem.isWritable = false → step.1 = .error .unwritable)) ∧
      (listed entries).map (fun problem => problem.notice.path) =
        (unknownKeys entries).map Datum.display ++
          (refusals entries).map fun refusal => .ofText refusal.1.name) ∧
    ∀ found : Datum, (∀ entries, found ≠ .mapping entries) →
      loader.fromDatum found =
          (.error (.invalid [.notMapping found]), { problems := [.notMapping found] }) ∧
        (Problem.notMapping found).notice =
          { message := .ofText ("Options must be a mapping, got ".toList ++ found.kind) } := by
  refine ⟨fun entries => ?mapping, fun found notMapping => ⟨?other, rfl⟩⟩
  case other =>
    cases found with
    | mapping entries => exact absurd rfl (notMapping entries)
    | _ => rfl
  case mapping =>
    intro step
    have accepts (valid : IsValid entries) : step = (.ok (ofEntries entries), {}) :=
      loader.fromDatum_of_isValid valid
    have lists (invalid : ¬ IsValid entries) :
        (listed entries).all Problem.isWritable = true →
          step = (.error (.invalid (listed entries)), { problems := listed entries }) :=
      loader.fromDatum_of_not_isValid invalid
    have breaks : (listed entries).all Problem.isWritable = false → step.1 = .error .unwritable :=
      loader.fromDatum_of_not_writable
    have isValid_of_ok {options : Options} (success : step.1 = .ok options) : IsValid entries := by
      by_contra invalid
      cases writable : (listed entries).all Problem.isWritable with
      | true => simp [lists invalid writable] at success
      | false => simp [breaks writable] at success
    refine ⟨⟨fun ⟨_, success⟩ => isValid_of_ok success, fun valid => ⟨_, by rw [accepts valid]⟩⟩,
      fun options success field => ?_, fun invalid => ⟨?_, lists invalid, breaks⟩,
      map_path_listed entries⟩
    · have valid := isValid_of_ok success
      rw [accepts valid] at success
      obtain rfl : ofEntries entries = options := Except.ok.inj success
      exact datum_ofEntries valid field
    · exact fun free => invalid ((listed_eq_nil_iff entries).mp free)

/-- All problems are listed in the order of the checks. -/
theorem fromDatum_accepts_or_lists_five_problems :
    let written (name : String) : Datum := .text (.ofText name.toList)
    let entries : List (Datum × Datum) :=
      [(written "on_malformed", .list [written "skip"]), (.boolean true, .null),
        (written "cache_expansions", .integer 0), (written "", .integer 0),
        (written "encode", .integer 1)]
    let found : List Problem :=
      [.unknownField (.boolean true), .unknownField (written ""), .notBoolean .encode (.integer 1),
        .notBoolean .cacheExpansions (.integer 0), .badPolicy (.list [written "skip"])]
    ¬ IsValid entries ∧ found.all Problem.isWritable = true ∧
      fromDatum {} (.mapping entries) = (.error (.invalid found), { problems := found }) ∧
      found.map (fun problem => problem.notice.path) =
        ["True".toList, [], "encode".toList, "cache_expansions".toList,
          "on_malformed".toList].map CodeText.ofText := by
  intro written entries found
  have invalid : ¬ IsValid entries := by decide +kernel
  have writable : found.all Problem.isWritable = true := by decide +kernel
  obtain ⟨_, _, refuses, paths⟩ := (fromDatum_accepts_or_lists {}).1 entries
  exact ⟨invalid, writable, (refuses invalid).2.1 writable, paths⟩

/-- An integer that cannot be written is refused without a report. -/
theorem fromDatum_not_invalid_of_long_policy :
    let policy : Datum := .integer (Nat.pow 10 Text.digitLimit)
    let entries : List (Datum × Datum) :=
      [(.text (CodeText.ofText "on_malformed".toList), policy)]
    ¬ IsValid entries ∧ ∀ found, (fromDatum {} (.mapping entries)).1 ≠ .error (.invalid found) := by
  intro policy entries
  have alone : listed entries = [.badPolicy policy] := rfl
  have invalid : ¬ IsValid entries := by
    rw [← listed_eq_nil_iff, alone]
    exact List.cons_ne_nil _ _
  have long : policy.isWritable = false := by
    rw [Bool.eq_false_iff, Ne, Datum.isWritable_integer_iff, Int.natAbs_natCast]
    exact Nat.lt_irrefl _
  have unwritable : (listed entries).all Problem.isWritable = false := by
    simp [alone, Problem.isWritable, long]
  refine ⟨invalid, fun found reported => ?_⟩
  rw [fromDatum_of_not_writable {} unwritable] at reported
  cases reported

end Loader

end Options

end UriExpansion
