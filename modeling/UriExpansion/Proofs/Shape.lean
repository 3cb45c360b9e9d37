import UriExpansion.Proofs.Delimiters
import UriExpansion.Proofs.Malformed

namespace UriExpansion

namespace Datum

/-- The rendered texts of two data are both empty or both not empty. -/
def SameEmptiness (first second : Datum) : Prop :=
  first.render = [] ↔ second.render = []

instance : DecidableRel SameEmptiness := fun first second =>
  inferInstanceAs (Decidable (first.render = [] ↔ second.render = []))

/-- Scalars and items of the same shape agree on emptiness. -/
inductive SameShape (first second : Datum) : Prop where
  | scalars (firstScalar : first.items? = none) (secondScalar : second.items? = none)
      (same : first.SameEmptiness second)
  | sequences {firstItems secondItems : List Datum} (firstSequence : first.items? = some firstItems)
      (secondSequence : second.items? = some secondItems)
      (same : List.Forall₂ SameEmptiness firstItems secondItems)

/-- Each name has data of the same shape in both mappings or none. -/
def SameShapes (first second : Bindings Datum) : Prop :=
  ∀ name, Option.Rel SameShape (bound? first name) (bound? second name)

end Datum

namespace Datum.SameShape

variable {first second : Datum}

theorem isSome_items? (same : first.SameShape second) :
    first.items?.isSome = second.items?.isSome := by
  cases same with
  | scalars firstScalar secondScalar _ => rw [firstScalar, secondScalar]
  | sequences firstSequence secondSequence _ => rw [firstSequence, secondSequence]; rfl

theorem forall₂_parts (same : first.SameShape second) :
    List.Forall₂ SameEmptiness first.parts second.parts := by
  unfold parts
  cases same with
  | scalars firstScalar secondScalar same =>
      rw [firstScalar, secondScalar]
      exact .cons same .nil
  | sequences firstSequence secondSequence same =>
      rw [firstSequence, secondSequence]
      exact same

end Datum.SameShape

namespace Value

theorem mask_ofTexts (datum : Datum) (texts : List CodeText) :
    (ofTexts datum texts).mask = ofTexts datum (texts.map CodeText.mask) := by
  unfold ofTexts
  split
  · rfl
  · cases texts <;> rfl

/-- An encoded part shows in its mask only whether its text is empty. -/
theorem mask_encoded {first second : Datum} (same : first.SameEmptiness second)
    {text other : CodeText} (encodedFirst : encoded true first.render = .ok text)
    (encodedSecond : encoded true second.render = .ok other) : text.mask = other.mask := by
  obtain ⟨characters, rendered, rfl⟩ := eq_of_percentEncoded encodedFirst
  obtain ⟨others, otherRendered, rfl⟩ := eq_of_percentEncoded encodedSecond
  apply CodeText.mask_encode
  rwa [Datum.SameEmptiness, rendered, otherRendered, CodeText.ofText_eq_nil_iff,
    CodeText.ofText_eq_nil_iff] at same

theorem map_mask_encoded {firstParts secondParts : List Datum} {texts others : List CodeText}
    (same : List.Forall₂ Datum.SameEmptiness firstParts secondParts)
    (first : List.Forall₂ (fun part text => encoded true part.render = .ok text) firstParts texts)
    (second : List.Forall₂ (fun part text => encoded true part.render = .ok text)
      secondParts others) : texts.map CodeText.mask = others.map CodeText.mask := by
  induction same generalizing texts others with
  | nil =>
      cases first
      cases second
      rfl
  | cons head _ inductionHypothesis =>
      cases first with
      | cons firstHead firstTail =>
          cases second with
          | cons secondHead secondTail =>
              exact congrArg₂ List.cons (mask_encoded head firstHead secondHead)
                (inductionHypothesis firstTail secondTail)

theorem mask_ofDatum {first second : Datum} (same : first.SameShape second) {value other : Value}
    (firstFound : ofDatum true first = .ok value) (secondFound : ofDatum true second = .ok other) :
    value.mask = other.mask := by
  obtain ⟨texts, firstTexts, rfl⟩ := exists_texts_of_ofDatum firstFound
  obtain ⟨others, secondTexts, rfl⟩ := exists_texts_of_ofDatum secondFound
  rw [mask_ofTexts, mask_ofTexts, map_mask_encoded same.forall₂_parts firstTexts secondTexts,
    ofTexts, ofTexts, same.isSome_items?]

/-- Mappings of the same shape are prepared to values with the same masks. -/
theorem mask_get?_of_prepare {first second : Bindings Datum} {values others : Bindings Value}
    (same : Datum.SameShapes first second) (prepared : prepare true first = .ok values)
    (otherPrepared : prepare true second = .ok others) (name : Text) :
    (values.get? name).map mask = (others.get? name).map mask := by
  have related := same name
  cases bound : Datum.bound? first name with
  | none =>
      cases otherBound : Datum.bound? second name with
      | none =>
          rw [get?_of_prepare_of_unbound prepared bound,
            get?_of_prepare_of_unbound otherPrepared otherBound]
      | some other =>
          rw [bound, otherBound] at related
          exact absurd related Option.not_rel_none_some
  | some datum =>
      cases otherBound : Datum.bound? second name with
      | none =>
          rw [bound, otherBound] at related
          exact absurd related Option.not_rel_some_none
      | some other =>
          rw [bound, otherBound, Option.rel_some_some] at related
          obtain ⟨value, rendered, found⟩ := exists_get?_of_prepare prepared bound
          obtain ⟨otherValue, otherRendered, otherFound⟩ :=
            exists_get?_of_prepare otherPrepared otherBound
          rw [found, otherFound]
          exact congrArg some (mask_ofDatum related rendered otherRendered)

end Value

namespace Template

variable {values others : Bindings Value}

/-- The variables of a marker are masked alike if the values are. -/
theorem masked_bind
    (same : ∀ name, (values.get? name).map Value.mask = (others.get? name).map Value.mask)
    (defaults : Bindings Text) :
    (bind values defaults).masked = (bind others defaults).masked := by
  have entry (name : Text) (default : CodeText) :
      ((values.get? name).getD (.scalar default)).mask =
        ((others.get? name).getD (.scalar default)).mask := by
    rw [← Option.getD_map Value.mask, ← Option.getD_map Value.mask, same]
  simp only [Bindings.masked, bind, Bindings.map, List.map_map, Function.comp_def, entry]

/-- The segments expand to the same delimiters, or they fail alike. -/
theorem delimiters_expansion (policy : MalformedPolicy)
    (same : ∀ name, (values.get? name).map Value.mask = (others.get? name).map Value.mask)
    (segment : Segment) :
    (Segment.expansion policy values segment).map CodeText.delimiters =
      (Segment.expansion policy others segment).map CodeText.delimiters := by
  cases segment with
  | literal character => rfl
  | marker body =>
      simp only [Segment.expansion, Segment.effect, expandMarker]
      cases Marker.parse body with
      | error problem => rfl
      | ok marker =>
          have applied := marker.operator.delimiters_apply_masked
            (bind values marker.defaults) (CodeText.ofText marker.argument)
          rw [masked_bind same, marker.operator.delimiters_apply_masked] at applied
          have lifted (result : Option CodeText) :
              ((result.map Except.ok).getD (.error Failure.noVariable)).map CodeText.delimiters =
                ((result.map CodeText.delimiters).map Except.ok).getD (.error .noVariable) := by
            cases result <;> rfl
          simp only [lifted, applied]

/-- The delimiters of an outcome are those of its segments, one after the other. -/
theorem delimiters_mapM_expansion (policy : MalformedPolicy) (values : Bindings Value)
    (segments : List Segment) :
    ((segments.mapM (Segment.expansion policy values)).map List.flatten).map
        CodeText.delimiters =
      (segments.mapM fun segment =>
        (Segment.expansion policy values segment).map CodeText.delimiters).map List.flatten := by
  rw [← Traversal.map_mapM]
  cases segments.mapM (Segment.expansion policy values) with
  | error failure => rfl
  | ok texts => exact congrArg Except.ok (CodeText.delimiters_flatten texts)

/-- Encoded data of the same shape and fault lead to the same delimiters. -/
theorem delimiters_substitute (template : Template) (history otherHistory : List Call)
    (encode : Option Bool) (encoded : encode.getD template.options.encode = true)
    (first second : Bindings Datum) (same : Datum.SameShapes first second) :
    ((∃ failure,
      (template.substitute (template.cacheAfter history) first encode).outcome =
          .error failure ∧
        (template.substitute (template.cacheAfter otherHistory) second encode).outcome =
          .error failure) ∨
    ∃ text other,
      (template.substitute (template.cacheAfter history) first encode).outcome = .ok text ∧
        (template.substitute (template.cacheAfter otherHistory) second encode).outcome =
          .ok other ∧
        CodeText.delimiters text = CodeText.delimiters other) ↔
    template.fault? first encode = template.fault? second encode := by
  have sound := template.cacheAfter_isSound history
  have otherSound := template.cacheAfter_isSound otherHistory
  rw [← map_eq_map_iff CodeText.delimiters]
  constructor
  · intro alike
    have failures := congrArg error? alike
    rw [error?_map, error?_map] at failures
    exact fault?_eq_of_error?_eq sound otherSound failures
  · intro faults
    cases found : template.fault? first encode with
    | some cause =>
        rw [substitute_of_fault? found, substitute_of_fault? (faults ▸ found)]
    | none =>
        obtain ⟨values, prepared⟩ := exists_prepare_iff.mpr found
        obtain ⟨others, otherPrepared⟩ := exists_prepare_iff.mpr (faults ▸ found)
        rw [outcome_substitute_of_prepare sound prepared,
          outcome_substitute_of_prepare otherSound otherPrepared, delimiters_mapM_expansion,
          delimiters_mapM_expansion]
        rw [prepare, encoded] at prepared otherPrepared
        have segments (segment : Segment) := delimiters_expansion template.options.onMalformed
          (Value.mask_get?_of_prepare same prepared otherPrepared) segment
        simp only [segments]

/-- A delimiter in a value does not change the structure around it. -/
theorem delimiters_substitute_join_prefix :
    let template : Template :=
      { text := "\x7b-join|&|a,b\x7d\x7b-prefix|/|c\x7d".toList }
    let first : Bindings Datum := .ofList
      [(['a'], .text (CodeText.ofText ['&', '='])),
        (['c'], .list [.text [.character '/'], .text []]), (['b'], .null)]
    let second : Bindings Datum := .ofList
      [(['c'], .tuple [.boolean true, .text []]), (['a'], .integer 5)]
    (some true).getD template.options.encode = true ∧ Datum.SameShapes first second ∧
      ((∃ failure,
        (template.substitute (template.cacheAfter []) first (some true)).outcome =
            .error failure ∧
          (template.substitute (template.cacheAfter [.variableNames]) second (some true)).outcome =
            .error failure) ∨
      ∃ text other,
        (template.substitute (template.cacheAfter []) first (some true)).outcome = .ok text ∧
          (template.substitute (template.cacheAfter [.variableNames]) second (some true)).outcome =
            .ok other ∧
          CodeText.delimiters text = CodeText.delimiters other) := by
  intro template first second
  have same : Datum.SameShapes first second := by
    intro name
    simp only [Datum.bound?, first, second, Bindings.ofList, Bindings.update, List.foldl_cons,
      List.foldl_nil, Bindings.get?_insert, Bindings.get?_empty]
    by_cases atScalar : ['a'] = name
    · subst atScalar
      exact .some (.scalars rfl rfl (by decide))
    by_cases atSequence : ['c'] = name
    · subst atSequence
      exact .some (.sequences rfl rfl (.cons (by decide) (.cons (by decide) .nil)))
    by_cases atNull : ['b'] = name
    · subst atNull
      exact .none
    simp [atScalar, atSequence, atNull]
  have faults : template.fault? first (some true) = template.fault? second (some true) := by rfl
  exact ⟨rfl, same, (template.delimiters_substitute [] [.variableNames] (some true) rfl first
    second same).mpr faults⟩

/-- A lone surrogate has the shape of a letter and is not expanded. -/
theorem delimiters_substitute_of_loneSurrogate :
    let template : Template := { text := "\x7b-opt|/|x\x7d".toList }
    let first : Bindings Datum := .ofList [(['x'], .text [.surrogate 0])]
    let second : Bindings Datum := .ofList [(['x'], .text [.character 'a'])]
    (some true).getD template.options.encode = true ∧ Datum.SameShapes first second ∧
      (template.substitute .empty first (some true)).outcome =
        .error (.unprepared (.loneSurrogate [.surrogate 0])) ∧
      (template.substitute .empty second (some true)).outcome = .ok [.character '/'] := by
  intro template first second
  refine ⟨rfl, ?_, by rfl, by decide +kernel⟩
  intro name
  simp only [Datum.bound?, first, second, Bindings.ofList, Bindings.update, List.foldl_cons,
    List.foldl_nil, Bindings.get?_insert, Bindings.get?_empty]
  by_cases bound : ['x'] = name
  · subst bound
    exact .some (.scalars rfl rfl (by decide))
  · simp [bound]

end Template

end UriExpansion
