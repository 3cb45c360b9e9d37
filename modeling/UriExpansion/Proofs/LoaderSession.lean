import UriExpansion.Proofs.Loader

namespace UriExpansion

theorem Text.length_ofNat_le_iff {limit : Nat} (positive : 0 < limit) (number : Nat) :
    (ofNat number).length ≤ limit ↔ number < Nat.pow 10 limit :=
  Nat.length_toDigits_le_iff (by decide) positive

theorem Datum.isWritable_integer_iff (value : Int) :
    (Datum.integer value).isWritable = true ↔ value.natAbs < Nat.pow 10 Text.digitLimit := by
  rw [isWritable, decide_eq_true_iff, Text.length_ofNat_le_iff (by decide)]

namespace Options

/-- Only a failed validation reports problems. -/
def LoadFailure.problems {Exception : Type} : LoadFailure Exception → List Problem
  | .validation (.invalid problems) => problems
  | _ => []

/-- The problems that the outcome of a call reports. -/
def reported {Exception : Type} : Except (LoadFailure Exception) Options → List Problem
  | .ok _ => []
  | .error failure => failure.problems

/-- The first problem can be written and a later one cannot. -/
def breaksOff : List Problem → Bool
  | [] => false
  | first :: rest => first.isWritable && rest.any fun problem => !problem.isWritable

theorem breaksOff_eq_false_iff (problems : List Problem) :
    breaksOff problems = false ↔
      problems.all Problem.isWritable = true ∨ problems.takeWhile Problem.isWritable = [] := by
  cases problems with
  | nil => simp [breaksOff]
  | cons first rest => cases writable : first.isWritable <;> simp [breaksOff, writable]

namespace Loader

theorem problems_settle (datum : Datum) :
    (settle datum).2.problems = (problemsOf datum).takeWhile Problem.isWritable := by
  unfold settle
  split
  · next writable =>
      exact (List.takeWhile_eq_self_iff.mpr (List.all_eq_true.mp writable)).symm
  · rfl

theorem reported_ofDatum {Exception : Type} (datum : Datum) :
    reported (step ((ofDatum datum).mapError .invalid, {}) : LoaderStep Exception).1 =
      problemsOf datum := by
  unfold problemsOf
  cases ofDatum datum <;> rfl

theorem reported_step_settle {Exception : Type} (datum : Datum) :
    reported (step (settle datum) : LoaderStep Exception).1 =
      if (problemsOf datum).all Problem.isWritable then problemsOf datum else [] := by
  unfold settle
  by_cases writable : (problemsOf datum).all Problem.isWritable = true
  · rw [if_pos writable, if_pos writable]
    exact reported_ofDatum datum
  · rw [if_neg writable, if_neg writable]
    rfl

variable {File Exception : Type} (reader : Reader File Exception) (loader : Loader)

/-- A validation leaves the problems that it reports unless it breaks off. -/
theorem step_settle_leaves_reported_iff (datum : Datum) :
    let settled : LoaderStep Exception := step (settle datum)
    settled.2.problems = reported settled.1 ↔ breaksOff (problemsOf datum) = false := by
  intro settled
  have left : settled.2.problems = (problemsOf datum).takeWhile Problem.isWritable :=
    problems_settle datum
  rw [breaksOff_eq_false_iff, left, reported_step_settle]
  split
  · next writable =>
      have all := List.takeWhile_eq_self_iff.mpr (List.all_eq_true.mp writable)
      exact iff_of_true all (.inl writable)
  · next unwritable => simp [unwritable]

/-- A call leaves the problems that it reports unless its validation breaks off. -/
theorem perform_leaves_reported_iff (call : LoaderCall File) :
    (loader.perform reader call).2.problems = reported (loader.perform reader call).1 ↔
      ∀ datum, reader.document call = .ok datum → breaksOff (problemsOf datum) = false := by
  rw [perform_eq]
  cases reader.document call with
  | ok datum => simpa using step_settle_leaves_reported_iff datum
  | error exception =>
      refine iff_of_true ?_ nofun
      dsimp only
      split <;> rfl

theorem perform_load_of_read {file : File} {datum : Datum}
    (parsed : reader.read file = .ok datum) :
    loader.perform reader (.load file) =
      loader.perform reader (.fromDatum (documentOf datum)) := by
  rw [perform_eq, perform_eq, Reader.document, Reader.document, parsed]
  rfl

/-- The calls of a session do not depend on each other. -/
theorem session_eq_map (calls : List (LoaderCall File)) :
    loader.session reader calls = calls.map (perform reader {}) := by
  induction calls generalizing loader with
  | nil => rfl
  | cons call rest inductionHypothesis =>
      rw [session, inductionHypothesis, perform_eq_perform_empty, List.map_cons]

/-- A session gives what its calls give on fresh loaders. -/
theorem session_eq_fresh_calls (calls : List (LoaderCall File)) :
    loader.session reader calls = calls.map (perform reader {}) ∧
      (∀ file datum, reader.read file = .ok datum →
        let loaded := perform reader {} (.load file)
        (datum.isNull = true → loaded = perform reader {} (.fromDatum (.mapping []))) ∧
        (datum.isNull = false → loaded = perform reader {} (.fromDatum datum)) ∧
        (datum.isNull = false → (∀ entries, datum ≠ .mapping entries) →
          loaded = (.error (.validation (.invalid [.notMapping datum])),
            { problems := [.notMapping datum] }))) ∧
      ∀ call ∈ calls,
        (perform reader {} call).2.problems = reported (perform reader {} call).1 ↔
          ∀ datum, reader.document call = .ok datum → breaksOff (problemsOf datum) = false := by
  refine ⟨session_eq_map reader loader calls, ?_,
    fun call _ => perform_leaves_reported_iff reader {} call⟩
  intro file datum parsed
  have loads := perform_load_of_read reader {} parsed
  refine ⟨fun isNull => ?_, fun notNull => ?_, fun notNull notMapping => ?_⟩
  · rw [loads, documentOf, if_pos isNull]
  · rw [loads, documentOf, if_neg (Bool.eq_false_iff.mp notNull)]
  · rw [loads, documentOf, if_neg (Bool.eq_false_iff.mp notNull)]
    cases datum with
    | mapping entries => exact absurd rfl (notMapping entries)
    | _ => rfl

/-- The reader of one empty file, whose document is null. -/
def emptyFileReader : Reader Unit Empty where
  read _ := .ok .null
  isReported := nofun
  wording := nofun

/-- An empty file is loaded as the empty mapping after a call that has failed. -/
theorem session_eq_fresh_calls_empty_file :
    let calls : List (LoaderCall Unit) := [.fromDatum (.boolean false), .load ()]
    emptyFileReader.read () = .ok .null ∧
      ({} : Loader).session emptyFileReader calls =
        [(.error (.validation (.invalid [.notMapping (.boolean false)])),
            { problems := [.notMapping (.boolean false)] }),
          (.ok {}, {})] := by
  intro calls
  have read : emptyFileReader.read () = .ok .null := rfl
  obtain ⟨independent, documents, _⟩ := session_eq_fresh_calls emptyFileReader {} calls
  have loaded := (documents () .null read).1 rfl
  refine ⟨read, ?_⟩
  rw [independent, List.map_cons, List.map_cons, List.map_nil, loaded]
  rfl

/-- The smallest integer that cannot be written stops a validation half-way. -/
theorem problems_ne_reported_of_long_policy :
    let policy : Datum := .integer (Nat.pow 10 Text.digitLimit)
    let unknown : Datum := .text [.character 'x']
    let entries : List (Datum × Datum) :=
      [(unknown, .integer 1), (.text (CodeText.ofText "on_malformed".toList), policy)]
    let validated := ({} : Loader).fromDatum (.mapping entries)
    let failure : LoadFailure Empty := .validation .unwritable
    validated = (.error .unwritable, { problems := [.unknownField unknown] }) ∧
      validated.2.problems ≠ reported (.error failure) := by
  intro policy unknown entries validated failure
  have known : (Problem.unknownField unknown).isWritable = true := rfl
  have long : (Problem.badPolicy policy).isWritable = false := by
    rw [Problem.isWritable, Bool.eq_false_iff, Ne, Datum.isWritable_integer_iff,
      Int.natAbs_natCast]
    exact Nat.lt_irrefl _
  have found : problemsOf (.mapping entries) = [.unknownField unknown, .badPolicy policy] := rfl
  have stopped : validated = (.error .unwritable, { problems := [.unknownField unknown] }) := by
    simp [validated, fromDatum_eq, settle, found, known, long]
  rw [stopped]
  exact ⟨rfl, List.cons_ne_nil _ _⟩

end Loader

end Options

end UriExpansion
