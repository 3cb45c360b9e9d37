import Mathlib.Data.List.Nodup
import Mathlib.Data.List.Perm.Subperm
import UriExpansion.Proofs.NameOrder
import UriExpansion.Proofs.SingleMarker

namespace UriExpansion

namespace Bindings

variable {A : Type}

theorem nodup_entries (bindings : Bindings A) : bindings.entries.Nodup :=
  List.Nodup.of_map Prod.fst bindings.distinct

/-- Bindings that agree as mappings have the same entries in some order. -/
theorem perm_of_agrees [DecidableEq A] {first second : Bindings A}
    (equal : first.agrees second = true) : first.entries.Perm second.entries := by
  simp only [agrees, Bool.and_eq_true, beq_iff_eq, List.all_eq_true] at equal
  have included : first.entries ⊆ second.entries := fun entry member =>
    mem_entries_iff.mpr (equal.2 entry member)
  exact (List.subperm_of_subset first.nodup_entries included).perm_of_length_le
    (Nat.le_of_eq equal.1.symm)

/-- The first entry holds the first name with its value. -/
theorem head?_entries {bindings : Bindings A} {name : Text}
    (head : bindings.names.head? = some name) :
    bindings.entries.head? = (bindings.get? name).map fun value => (name, value) := by
  rw [names, List.head?_map, Option.map_eq_some_iff] at head
  obtain ⟨entry, first, rfl⟩ := head
  rw [first, mem_entries_iff.mp (List.mem_of_head? first), Option.map_some]

/-- Permuted entries that start with the same name start with the same entry. -/
theorem head?_entries_eq_of_perm {first second : Bindings A}
    (permuted : first.entries.Perm second.entries)
    (same : first.names.head? = second.names.head?) :
    first.entries.head? = second.entries.head? := by
  cases head : first.names.head? with
  | none =>
      have empty : first.entries = [] := by simpa [names] using head
      rw [empty] at permuted ⊢
      rw [permuted.nil_eq]
  | some name =>
      have found : first.get? name = second.get? name := by
        ext value
        rw [← mem_entries_iff, permuted.mem_iff, mem_entries_iff]
      rw [head?_entries head, head?_entries (same.symm.trans head), found]

end Bindings

namespace Operator

/-- Some operators use the first value alone. -/
def readsFirst : Operator → Bool
  | .plain | .prepend | .append | .list => true
  | .join | .opt | .neg | .unknown => false

/-- The order of the variables does not matter to an operator on all variables. -/
theorem apply_eq_of_perm {operator : Operator} (readsAll : operator.readsFirst = false)
    {first second : Bindings Value} (permuted : first.entries.Perm second.entries)
    (argument : CodeText) : operator.apply first argument = operator.apply second argument := by
  rw [apply_eq, apply_eq]
  cases operator with
  | plain | prepend | append | list => exact absurd readsAll (by decide)
  | join => rw [pairs, pairs, sortedByName_eq_of_perm permuted]
  | opt => rw [anyPresent, anyPresent, permuted.any_eq]
  | neg => rw [allEmpty, allEmpty, permuted.all_eq]
  | unknown => rfl

/-- Only the first value matters to an operator on the first value. -/
theorem apply_eq_of_firstValue? {operator : Operator} (reads : operator.readsFirst = true)
    {first second : Bindings Value} (same : firstValue? first = firstValue? second)
    (argument : CodeText) : operator.apply first argument = operator.apply second argument := by
  rw [apply_eq, apply_eq]
  cases operator with
  | plain | prepend | append | list => simp only [same]
  | join | opt | neg | unknown => exact absurd reads (by decide)

/-- An operator on the first value tells sequences of one item apart. -/
theorem apply_ne_of_firstValue? {operator : Operator} (reads : operator.readsFirst = true)
    {first second : Bindings Value} {item other : CodePoint} (different : item ≠ other)
    (firstItem : firstValue? first = some (.sequence [[item]]))
    (secondItem : firstValue? second = some (.sequence [[other]])) (argument : CodeText) :
    operator.apply first argument ≠ operator.apply second argument := by
  rw [apply_eq, apply_eq]
  cases operator with
  | plain | prepend | append | list =>
      simp [firstItem, secondItem, prepended, appended, listed, Value.joined, Value.isSequence,
        different]
  | join | opt | neg | unknown => exact absurd reads (by decide)

end Operator

namespace Template

/-- Two different names are bound to different sequences of one item. -/
def probe (first second : Text) : Bindings Datum :=
  .ofList [(first, .list [.text [.character '0']]), (second, .list [.text [.character '1']])]

theorem entries_probe {first second : Text} (different : first ≠ second) :
    (probe first second).entries =
      [(first, .list [.text [.character '0']]), (second, .list [.text [.character '1']])] :=
  Bindings.entries_ofList_of_nodup (by simpa using different)

theorem prepare_probe {first second : Text} (different : first ≠ second) :
    Value.prepare false (probe first second) =
      .ok (.ofList [(first, .sequence [[.character '0']]),
        (second, .sequence [[.character '1']])]) := by
  have entries : (Datum.present (probe first second)).entries =
      [(first, .list [.text [.character '0']]), (second, .list [.text [.character '1']])] := by
    simp only [Datum.present, Bindings.filterMap, entries_probe different]
    rfl
  rw [Value.prepare, entries]
  rfl

/-- An operator that uses the first value shows which variable is declared first. -/
theorem head?_names_eq_of_apply_probe {operator : Operator} (reads : operator.readsFirst = true)
    {defaults others : Bindings Text} (nonempty : defaults.names ≠ [])
    (otherNonempty : others.names ≠ []) (argument : CodeText)
    (same : ∀ (bindings : Bindings Datum) (values : Bindings Value),
      Value.prepare false bindings = .ok values →
        operator.apply (bind values defaults) argument =
          operator.apply (bind values others) argument) :
    defaults.names.head? = others.names.head? := by
  obtain ⟨name, _, names⟩ := List.exists_cons_of_ne_nil nonempty
  obtain ⟨other, _, otherNames⟩ := List.exists_cons_of_ne_nil otherNonempty
  have head : defaults.names.head? = some name := by rw [names, List.head?_cons]
  have otherHead : others.names.head? = some other := by rw [otherNames, List.head?_cons]
  by_cases equal : name = other
  · rw [head, otherHead, equal]
  · have digits : CodePoint.character '0' ≠ .character '1' := by decide
    refine absurd (same _ _ (prepare_probe equal)) (Operator.apply_ne_of_firstValue? reads
      digits (firstValue?_bind_eq_some head ?_) (firstValue?_bind_eq_some otherHead ?_)
      argument)
    · simp [Bindings.ofList, Bindings.update, Bindings.get?_insert, Ne.symm equal]
    · simp [Bindings.ofList, Bindings.update, Bindings.get?_insert]

/-- Permuted variables give the same result unless another one comes first and is used. -/
theorem apply_bind_eq_of_perm {operator : Operator} {defaults others : Bindings Text}
    (permuted : defaults.entries.Perm others.entries)
    (sameFirst : operator.readsFirst = true → defaults.names.head? = others.names.head?)
    (values : Bindings Value) (argument : CodeText) :
    operator.apply (bind values defaults) argument =
      operator.apply (bind values others) argument := by
  cases reads : operator.readsFirst with
  | false => exact Operator.apply_eq_of_perm reads (permuted.map _) argument
  | true =>
      apply Operator.apply_eq_of_firstValue? reads
      rw [firstValue?_bind, firstValue?_bind,
        Bindings.head?_entries_eq_of_perm permuted (sameFirst reads)]

/-- Equal markers are interchangeable unless their operator uses another first variable. -/
theorem outcome_single_eq_iff_of_agrees (template : Template) {body other : Text}
    {marker otherMarker : Marker} (parsed : Marker.parse body = .ok marker)
    (otherParsed : Marker.parse other = .ok otherMarker) (isBody : Segment.IsBody body)
    (otherIsBody : Segment.IsBody other) (equal : marker.agrees otherMarker = true) :
    (∀ (history otherHistory : List Call) (bindings : Bindings Datum) (encode : Option Bool),
      let first := template.single body
      let second := template.single other
      (first.substitute (first.cacheAfter history) bindings encode).outcome =
          (second.substitute (second.cacheAfter otherHistory) bindings encode).outcome ∧
        (template.fault? bindings encode = none → ∃ text,
          (first.substitute (first.cacheAfter history) bindings encode).outcome = .ok text ∧
            (second.substitute (second.cacheAfter otherHistory) bindings encode).outcome =
              .ok text)) ↔
      (marker.operator.readsFirst = true →
        marker.defaults.names.head? = otherMarker.defaults.names.head?) := by
  simp only [Marker.agrees, Bool.and_eq_true, beq_iff_eq] at equal
  obtain ⟨⟨⟨sameOperator, sameArgument⟩, agree⟩, _⟩ := equal
  have common (history otherHistory : List Call) {bindings : Bindings Datum}
      {encode : Option Bool} {values : Bindings Value}
      (prepared : template.prepare bindings encode = .ok values) :=
    exists_common_outcome_iff_apply_eq parsed otherParsed isBody otherIsBody
      ((template.single body).cacheAfter_isSound history)
      ((template.single other).cacheAfter_isSound otherHistory) prepared prepared
  rw [← sameOperator, ← sameArgument] at common
  constructor
  · intro interchangeable reads
    apply head?_names_eq_of_apply_probe reads (Marker.names_ne_nil_of_parse parsed)
      (Marker.names_ne_nil_of_parse otherParsed) (CodeText.ofText marker.argument)
    intro bindings values prepared
    have prepared : template.prepare bindings (some false) = .ok values := prepared
    exact (common [] [] prepared).mp
      ((interchangeable [] [] bindings (some false)).2 (fault?_of_prepare prepared))
  · intro sameFirst history otherHistory bindings encode first second
    cases found : template.fault? bindings encode with
    | some cause =>
        rw [outcome_single_of_fault? found, outcome_single_of_fault? found]
        exact ⟨rfl, fun faultless => by cases faultless⟩
    | none =>
        obtain ⟨values, prepared⟩ := exists_prepare_iff.mpr found
        obtain ⟨text, outcome, otherOutcome⟩ := (common history otherHistory prepared).mpr
          (apply_bind_eq_of_perm (Bindings.perm_of_agrees agree) sameFirst values _)
        exact ⟨outcome.trans otherOutcome.symm, fun _ => ⟨text, outcome, otherOutcome⟩⟩

/-- A prefix uses its first variable alone, whatever order the others have. -/
theorem outcome_single_eq_iff_of_agrees_prefix :
    let template : Template := { text := [] }
    let body : Text := "-prefix|/|a,b=1,c".toList
    let other : Text := "+prefix|/|a,c=2,b=1,c".toList
    let marker : Marker :=
      { operator := .prepend, argument := ['/'],
        defaults := .ofList [(['a'], []), (['b'], ['1']), (['c'], [])], name := "prefix".toList }
    let otherMarker : Marker :=
      { operator := .prepend, argument := ['/'],
        defaults := .ofList [(['a'], []), (['c'], []), (['b'], ['1'])], name := "prefix".toList }
    Marker.parse body = .ok marker ∧ Marker.parse other = .ok otherMarker ∧
      Segment.IsBody body ∧ Segment.IsBody other ∧ marker.agrees otherMarker = true ∧
      ((∀ (history otherHistory : List Call) (bindings : Bindings Datum) (encode : Option Bool),
        let first := template.single body
        let second := template.single other
        (first.substitute (first.cacheAfter history) bindings encode).outcome =
            (second.substitute (second.cacheAfter otherHistory) bindings encode).outcome ∧
          (template.fault? bindings encode = none → ∃ text,
            (first.substitute (first.cacheAfter history) bindings encode).outcome = .ok text ∧
              (second.substitute (second.cacheAfter otherHistory) bindings encode).outcome =
                .ok text)) ↔
        (marker.operator.readsFirst = true →
          marker.defaults.names.head? = otherMarker.defaults.names.head?)) := by
  intro template body other marker otherMarker
  have parsed : Marker.parse body = .ok marker := by rfl
  have otherParsed : Marker.parse other = .ok otherMarker := by rfl
  have isBody : Segment.IsBody body := by decide +kernel
  have otherIsBody : Segment.IsBody other := by decide +kernel
  have equal : marker.agrees otherMarker = true := by decide +kernel
  exact ⟨parsed, otherParsed, isBody, otherIsBody, equal,
    template.outcome_single_eq_iff_of_agrees parsed otherParsed isBody otherIsBody equal⟩

/-- Equal plain markers that declare two variables in different orders expand to different texts. -/
theorem outcome_single_ne_of_swapped :
    let template : Template := { text := [] }
    let body : Text := ['x', ',', 'y']
    let other : Text := ['y', ',', 'x']
    let marker : Marker :=
      { operator := .plain, argument := [], defaults := .ofList [(['x'], []), (['y'], [])],
        name := [] }
    let otherMarker : Marker :=
      { operator := .plain, argument := [], defaults := .ofList [(['y'], []), (['x'], [])],
        name := [] }
    let bindings : Bindings Datum :=
      .ofList [(['x'], .text [.character '1']), (['y'], .text [.character '2'])]
    Marker.parse body = .ok marker ∧ Marker.parse other = .ok otherMarker ∧
      Segment.IsBody body ∧ Segment.IsBody other ∧ marker.agrees otherMarker = true ∧
      ((template.single body).substitute .empty bindings none).outcome =
        .ok [.character '1'] ∧
      ((template.single other).substitute .empty bindings none).outcome =
        .ok [.character '2'] := by
  intro template body other marker otherMarker bindings
  have isBody : Segment.IsBody body := by decide
  have otherIsBody : Segment.IsBody other := by decide
  have prepared : template.prepare bindings none =
      .ok (.ofList [(['x'], .scalar [.character '1']), (['y'], .scalar [.character '2'])]) := by
    rfl
  refine ⟨rfl, rfl, isBody, otherIsBody, by decide, ?_, ?_⟩
  · rw [outcome_single isBody Cache.isSound_empty prepared]
    rfl
  · rw [outcome_single otherIsBody Cache.isSound_empty prepared]
    rfl

end Template

end UriExpansion
