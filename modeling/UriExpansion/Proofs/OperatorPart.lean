import UriExpansion.Proofs.LetterCase
import UriExpansion.Proofs.SingleMarker

namespace UriExpansion

namespace Operator

/-- The named operators are those with a written name that is not empty. -/
def named : List Operator :=
  [.prepend, .append, .join, .list, .opt, .neg]

/-- A text spells an operator if it becomes its name in lower case. -/
def IsSpelledBy (operator : Operator) (text : Text) : Prop :=
  operator.writtenName? = some (text.map Char.toLower)

instance (operator : Operator) (text : Text) : Decidable (operator.IsSpelledBy text) :=
  inferInstanceAs (Decidable (_ = _))

theorem isSome_writtenName?_of_mem_named {operator : Operator} (listed : operator ∈ named) :
    ∃ name, operator.writtenName? = some name := by
  cases operator with
  | plain | unknown => exact absurd listed (by decide)
  | prepend | append | join | list | opt | neg => exact ⟨_, rfl⟩

theorem ofName_eq_iff_isSpelledBy {operator : Operator} (listed : operator ∈ named) (text : Text) :
    ofName text = operator ↔ operator.IsSpelledBy text := by
  obtain ⟨name, written⟩ := isSome_writtenName?_of_mem_named listed
  rw [ofName_eq_iff written, IsSpelledBy, written, Option.some.injEq, eq_comm]

/-- The plain operator is selected by the empty text. -/
theorem ofName_eq_plain_iff (text : Text) : ofName text = .plain ↔ text = [] := by
  rw [ofName_eq_iff rfl, List.map_eq_nil_iff]

/-- A text that is not empty is unknown if it spells no named operator. -/
theorem ofName_eq_unknown_iff_named (text : Text) :
    ofName text = .unknown ↔ text ≠ [] ∧ ∀ operator ∈ named, ¬ operator.IsSpelledBy text := by
  constructor
  · intro unknown
    refine ⟨fun empty => ?_, fun operator listed spelled => ?_⟩
    · rw [(ofName_eq_plain_iff text).mpr empty] at unknown
      cases unknown
    · rw [(ofName_eq_iff_isSpelledBy listed text).mpr spelled] at unknown
      exact absurd listed (unknown ▸ by decide)
  · rintro ⟨nonempty, unspelled⟩
    cases selected : ofName text with
    | plain => exact absurd ((ofName_eq_plain_iff text).mp selected) nonempty
    | unknown => rfl
    | prepend | append | join | list | opt | neg =>
        exact absurd ((ofName_eq_iff_isSpelledBy (by decide) text).mp selected)
          (unspelled _ (by decide))

end Operator

namespace Marker

/-- The operator part of a body stands before its first bar. -/
def operatorPart (body : Text) : Text :=
  (Text.cutAt '|' body).1

theorem operatorPart_join {written argument declared : Text} (writtenBar : '|' ∉ written) :
    operatorPart (Text.join ['|'] [written, argument, declared]) = written := by
  have body : Text.join ['|'] [written, argument, declared] =
      written ++ '|' :: (argument ++ '|' :: declared) := by
    simp [Text.join_cons_cons]
  rw [operatorPart, body, Text.cutAt_append writtenBar]

/-- The operator of a marker with two bars stands in its operator part. -/
theorem operator_and_name_of_parse {body : Text} {marker : Marker} (two : body.count '|' = 2)
    (parsed : parse body = .ok marker) :
    marker.operator = .ofName ((operatorPart body).drop 1) ∧
      marker.name = (operatorPart body).drop 1 := by
  rcases cases_of_parse parsed with ⟨absent, _⟩ | ⟨written, argument, declared, rfl, bars, rfl⟩
  · rw [List.count_eq_zero.mpr absent] at two
    exact absurd two (by decide)
  · rw [operatorPart_join bars.1]
    exact ⟨rfl, rfl⟩

/-- Two bars select the operator of the part without its mark. -/
theorem exists_parse_of_two_bars {body : Text} (two : body.count '|' = 2) :
    ∃ marker, parse body = .ok marker ∧ marker.operator = .ofName ((operatorPart body).drop 1) := by
  have wellFormed : isMalformed body = false := by simp [isMalformed, two]
  obtain ⟨marker, parsed⟩ := exists_parse wellFormed
  exact ⟨marker, parsed, (operator_and_name_of_parse two parsed).1⟩

/-- No bars or a short operator part select the plain operator. -/
theorem exists_parse_plain_iff (body : Text) :
    (∃ marker, parse body = .ok marker ∧ marker.operator = .plain) ↔
      '|' ∉ body ∨ body.count '|' = 2 ∧ (operatorPart body).length ≤ 1 := by
  have short : (operatorPart body).drop 1 = [] ↔ (operatorPart body).length ≤ 1 :=
    List.drop_eq_nil_iff
  constructor
  · rintro ⟨marker, parsed, plain⟩
    by_cases absent : '|' ∉ body
    · exact .inl absent
    · have two : body.count '|' = 2 := by
        obtain ⟨wellFormed, _⟩ | ⟨_, refused⟩ := parse_cases body
        · rw [← List.count_eq_zero] at absent
          simpa [isMalformed, absent] using wellFormed
        · rw [parsed] at refused
          cases refused
      obtain ⟨other, same, selected⟩ := exists_parse_of_two_bars two
      obtain rfl : marker = other := Except.ok.inj (parsed.symm.trans same)
      rw [plain, eq_comm, Operator.ofName_eq_plain_iff, short] at selected
      exact .inr ⟨two, selected⟩
  · rintro (absent | ⟨two, single⟩)
    · exact ⟨_, parse_of_bar_not_mem absent, rfl⟩
    · obtain ⟨marker, parsed, selected⟩ := exists_parse_of_two_bars two
      exact ⟨marker, parsed,
        selected.trans ((Operator.ofName_eq_plain_iff _).mpr (short.mpr single))⟩

end Marker

namespace Template

/-- A marker of the unknown operator expands to nothing. -/
theorem outcome_single_of_unknown {template : Template} {body : Text} {marker : Marker}
    (parsed : Marker.parse body = .ok marker) (unknown : marker.operator = .unknown)
    (isBody : Segment.IsBody body) {cache : Cache} (sound : cache.IsSound)
    {bindings : Bindings Datum} {encode : Option Bool}
    (faultless : template.fault? bindings encode = none) :
    ((template.single body).substitute cache bindings encode).outcome = .ok [] := by
  obtain ⟨values, prepared⟩ := exists_prepare_iff.mpr faultless
  obtain ⟨text, applied, outcome⟩ := exists_outcome_single parsed isBody sound prepared
  rw [unknown, Operator.apply_eq, Option.some.injEq] at applied
  rw [outcome, applied]

end Template

namespace Marker

/-- A body selects its operator by its operator part alone. -/
theorem operator_parse_iff (body : Text) :
    ((∃ marker, parse body = .ok marker ∧ marker.operator = .plain) ↔
      '|' ∉ body ∨ body.count '|' = 2 ∧ (operatorPart body).length ≤ 1) ∧
    (body.count '|' = 2 →
      ∃ marker, parse body = .ok marker ∧
        (∀ operator ∈ Operator.named,
          marker.operator = operator ↔ operator.IsSpelledBy ((operatorPart body).drop 1)) ∧
        (marker.operator = .unknown ↔
          1 < (operatorPart body).length ∧
            ∀ operator ∈ Operator.named, ¬ operator.IsSpelledBy ((operatorPart body).drop 1)) ∧
        (marker.operator = .unknown → Segment.IsBody body →
          ∀ (template : Template) (history : List Call) (bindings : Bindings Datum)
            (encode : Option Bool), template.fault? bindings encode = none →
            let expanding := template.single body
            (expanding.substitute (expanding.cacheAfter history) bindings encode).outcome =
              .ok [])) := by
  refine ⟨exists_parse_plain_iff body, fun two => ?_⟩
  obtain ⟨marker, parsed, selected⟩ := exists_parse_of_two_bars two
  have long : (operatorPart body).drop 1 ≠ [] ↔ 1 < (operatorPart body).length := by
    rw [ne_eq, List.drop_eq_nil_iff, Nat.not_le]
  refine ⟨marker, parsed, fun operator listed => ?_, ?_, ?_⟩
  · rw [selected, Operator.ofName_eq_iff_isSpelledBy listed]
  · rw [selected, Operator.ofName_eq_unknown_iff_named, long]
  · intro unknown isBody template history bindings encode faultless expanding
    exact Template.outcome_single_of_unknown parsed unknown isBody
      (expanding.cacheAfter_isSound history) faultless

/-- Capital letters spell an operator, and a dotted capital letter beyond ASCII spells none. -/
theorem operator_parse_iff_dotted_capital :
    let body : Text := "+JoIn|&|a".toList
    let dotted : Text := "-jo\u0130n|&|a".toList
    let template : Template := { text := [] }
    let bindings : Bindings Datum := .ofList [(['a'], .text [.character '1'])]
    body.count '|' = 2 ∧ .join ∈ Operator.named ∧
      (∃ marker, parse body = .ok marker ∧ marker.operator = .join) ∧
      dotted.count '|' = 2 ∧ Segment.IsBody dotted ∧
      (∃ marker, parse dotted = .ok marker ∧ marker.operator = .unknown) ∧
      ((template.single dotted).substitute ((template.single dotted).cacheAfter []) bindings
        none).outcome = .ok [] := by
  intro body dotted template bindings
  have two : body.count '|' = 2 := by decide +kernel
  have dottedTwo : dotted.count '|' = 2 := by decide +kernel
  have isBody : Segment.IsBody dotted := by decide +kernel
  obtain ⟨marker, parsed, named, _⟩ := (operator_parse_iff body).2 two
  obtain ⟨other, otherParsed, _, hidden, expands⟩ := (operator_parse_iff dotted).2 dottedTwo
  have join : marker.operator = .join := (named .join (by decide)).mpr (by decide +kernel)
  have unknown : other.operator = .unknown := hidden.mpr (by decide +kernel)
  exact ⟨two, by decide, ⟨marker, parsed, join⟩, dottedTwo, isBody, ⟨other, otherParsed, unknown⟩,
    expands unknown isBody template [] bindings none rfl⟩

/-- An operator part that is nothing but the mark selects the plain operator. -/
theorem exists_parse_plain_of_mark_alone :
    let body : Text := "-|x|y".toList
    let template : Template := { text := [] }
    let bindings : Bindings Datum := .ofList [(['y'], .text [.character '1'])]
    body.count '|' = 2 ∧ operatorPart body = ['-'] ∧
      (∃ marker, parse body = .ok marker ∧ marker.operator = .plain) ∧
      ((template.single body).substitute .empty bindings none).outcome =
        .ok [.character '1'] ∧
      ¬ ∀ body : Text,
        (∃ marker, parse body = .ok marker ∧ marker.operator = .plain) ↔ '|' ∉ body := by
  intro body template bindings
  have plain : ∃ marker, parse body = .ok marker ∧ marker.operator = .plain := ⟨_, rfl, rfl⟩
  have isBody : Segment.IsBody body := by decide +kernel
  refine ⟨by decide +kernel, by decide +kernel, plain, ?_, fun reserved => ?_⟩
  · have prepared : template.prepare bindings none =
        .ok (.ofList [(['y'], .scalar [.character '1'])]) := by rfl
    rw [Template.outcome_single isBody Cache.isSound_empty prepared]
    rfl
  · exact absurd ((reserved body).mp plain) (by decide +kernel)

end Marker

end UriExpansion
