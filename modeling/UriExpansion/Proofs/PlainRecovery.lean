import Mathlib.Tactic.Choose
import UriExpansion.Proofs.Decoding
import UriExpansion.Proofs.Delimiters
import UriExpansion.Proofs.Effect
import UriExpansion.Proofs.Marker

namespace UriExpansion

/-- A plain name is a body that declares itself without a default. -/
structure Marker.IsPlainName (body : Text) : Prop where
  bar : '|' ∉ body
  comma : ',' ∉ body
  equals : '=' ∉ body

namespace Segment

/-- A literal character that is not coded separates a marker from the next. -/
def isSeparatedFrom : Segment → Segment → Bool
  | .literal _, _ => true
  | .marker _, .literal character => !PercentEncoding.isCoded character
  | .marker _, .marker _ => false

/-- Each marker is the last segment or is separated from the next one. -/
abbrev AreSeparated (segments : List Segment) : Prop :=
  segments.IsChain fun segment next => segment.isSeparatedFrom next = true

/-- The text after a separated marker starts with a delimiter. -/
theorem isDelimiter_of_mem_head? {body : Text} {rest : List Segment}
    (separated : AreSeparated (.marker body :: rest)) (replacement : Text → CodeText) :
    ∀ point ∈ (rest.flatMap (fill replacement)).head?, point.isDelimiter = true := by
  intro point member
  cases rest with
  | nil => simp at member
  | cons next rest =>
      have follows := (List.isChain_cons_cons.mp separated).1
      cases next with
      | marker other => exact absurd follows (by simp [isSeparatedFrom])
      | literal first =>
          obtain rfl : .character first = point := by simpa [fill] using member
          exact follows

/-- An encoded text is the longest coded text in front of a delimiter. -/
theorem takeWhile_encode_append (text : Text) {rest : CodeText}
    (ends : ∀ point ∈ rest.head?, point.isDelimiter = true) :
    (CodeText.ofText (PercentEncoding.encode text) ++ rest).takeWhile
        (fun point => !point.isDelimiter) =
      CodeText.ofText (PercentEncoding.encode text) := by
  have stops : rest.takeWhile (fun point => !point.isDelimiter) = [] := by
    cases rest with
    | nil => rfl
    | cons point rest => simp [ends point rfl]
  have coded : ∀ point ∈ CodeText.ofText (PercentEncoding.encode text),
      (!point.isDelimiter) = true := by
    intro point member
    obtain ⟨character, inside, rfl⟩ := List.mem_map.mp member
    simp [CodePoint.isDelimiter, PercentEncoding.isCoded_of_mem_encode inside]
  rw [List.takeWhile_append_of_pos coded, stops, List.append_nil]

/-- An encoded text replaces each body. -/
abbrev encodedFill (source : Text → Text) : Segment → CodeText :=
  fill fun body => CodeText.ofText (PercentEncoding.encode (source body))

/-- The texts of separated markers are determined by the segments that their encodings fill. -/
theorem eq_of_flatMap_encodedFill_eq {segments : List Segment} (separated : AreSeparated segments)
    {first second : Text → Text}
    (same : segments.flatMap (encodedFill first) = segments.flatMap (encodedFill second)) :
    ∀ body ∈ bodies segments, first body = second body := by
  induction segments with
  | nil =>
      intro body member
      exact absurd member List.not_mem_nil
  | cons segment rest inductionHypothesis =>
      have later : AreSeparated rest := separated.of_cons
      rw [List.flatMap_cons, List.flatMap_cons] at same
      cases segment with
      | literal character => exact inductionHypothesis later (List.append_cancel_left same)
      | marker body =>
          simp only [encodedFill, fill] at same
          -- Both texts are cut where their coded characters end.
          have encoded : PercentEncoding.encode (first body) =
              PercentEncoding.encode (second body) := by
            have cut := congrArg (List.takeWhile fun point => !point.isDelimiter) same
            rw [takeWhile_encode_append _ (isDelimiter_of_mem_head? separated _),
              takeWhile_encode_append _ (isDelimiter_of_mem_head? separated _)] at cut
            exact CodeText.ofText_injective cut
          rw [encoded] at same
          intro other member
          rcases List.mem_cons.mp member with rfl | inside
          · exact PercentEncoding.encode_injective encoded
          · exact inductionHypothesis later (List.append_cancel_left same) other inside

end Segment

namespace Marker.IsPlainName

variable {body : Text}

/-- A plain name is read as a plain marker of its only variable. -/
theorem parse_eq (plain : IsPlainName body) :
    parse body =
      .ok { operator := .plain, argument := [], defaults := .ofList [(body, [])], name := [] } := by
  rw [parse_of_bar_not_mem plain.bar, defaultsOf_of_name plain.comma plain.equals]

theorem declared_eq (plain : IsPlainName body) : declared body = .ok [body] := by
  rw [declared, plain.parse_eq]
  rfl

/-- A plain name expands to the value of its variable. -/
theorem expansion_eq (plain : IsPlainName body) (policy : MalformedPolicy)
    {values : Bindings Value} {value : Value} (found : values.get? body = some value) :
    Segment.expansion policy values (.marker body) = .ok (value.joined [',']) := by
  have first : Operator.firstValue? (Template.bind values (.ofList [(body, [])])) = some value := by
    change some ((values.get? body).getD (.scalar [])) = some value
    rw [found, Option.getD_some]
  simp only [Segment.expansion, Segment.effect, Template.expandMarker, plain.parse_eq,
    Operator.apply_eq, first]
  rfl

end Marker.IsPlainName

namespace Template

variable {cache : Cache}

/-- The names of plain markers are their bodies. -/
theorem outcome_variableNames_of_plain {template : Template} (sound : cache.IsSound)
    (plain : ∀ body ∈ template.bodies, Marker.IsPlainName body) :
    (template.variableNames cache).outcome = .ok template.bodies.eraseDups := by
  have declared : template.bodies.mapM Marker.declared =
      .ok (template.bodies.map fun body => [body]) :=
    Traversal.mapM_of_forall_ok _ fun body member => (plain body member).declared_eq
  have names : (template.bodies.map fun body => [body]).flatten = template.bodies := by
    rw [← List.flatMap_def, List.flatMap_singleton']
  rw [template.outcome_variableNames sound, declared]
  exact congrArg (fun bodies => Except.ok (List.eraseDups bodies)) names

/-- A text that is prepared with encoding on holds no surrogate. -/
theorem exists_characters_of_prepare {bindings : Bindings Datum} {values : Bindings Value}
    {name : Text} {text : CodeText} (prepared : Value.prepare true bindings = .ok values)
    (bound : bindings.get? name = some (.text text)) :
    ∃ characters, text = CodeText.ofText characters ∧
      values.get? name =
        some (.scalar (CodeText.ofText (PercentEncoding.encode characters))) := by
  have present : Datum.bound? bindings name = some (.text text) := by
    rw [Datum.bound?, bound]
    rfl
  obtain ⟨value, rendered, found⟩ := Value.exists_get?_of_prepare prepared present
  change (Value.percentEncoded text).map Value.scalar = .ok value at rendered
  cases encoded : Value.percentEncoded text with
  | error cause =>
      rw [encoded] at rendered
      cases rendered
  | ok result =>
      rw [encoded] at rendered
      obtain ⟨characters, rfl, rfl⟩ := Value.eq_of_percentEncoded encoded
      exact ⟨characters, rfl, found.trans (congrArg some (Except.ok.inj rendered).symm)⟩

/-- Plain markers are replaced by the encoded texts of their variables. -/
theorem exists_source_of_plain {template : Template} (sound : cache.IsSound)
    (plain : ∀ body ∈ template.bodies, Marker.IsPlainName body) {bindings : Bindings Datum}
    (bound : ∀ body ∈ template.bodies, ∃ text, bindings.get? body = some (.text text))
    {encode : Option Bool} (encoded : encode.getD template.options.encode = true)
    (faultless : template.fault? bindings encode = none) :
    ∃ source : Text → Text,
      (∀ body ∈ template.bodies,
        bindings.get? body = some (.text (CodeText.ofText (source body)))) ∧
      (template.substitute cache bindings encode).outcome =
        .ok (template.segments.flatMap (Segment.encodedFill source)) := by
  obtain ⟨values, prepared⟩ := exists_prepare_iff.mpr faultless
  have encodedPrepared : Value.prepare true bindings = .ok values := encoded ▸ prepared
  have characters : ∀ body ∈ template.bodies, ∃ characters,
      bindings.get? body = some (.text (CodeText.ofText characters)) ∧
        values.get? body =
          some (.scalar (CodeText.ofText (PercentEncoding.encode characters))) := by
    intro body member
    obtain ⟨text, found⟩ := bound body member
    obtain ⟨characters, rfl, value⟩ := exists_characters_of_prepare encodedPrepared found
    exact ⟨characters, found, value⟩
  choose! source found value using characters
  refine ⟨source, found, (outcome_eq_ok_iff_of_prepare sound prepared _).mpr
    ⟨_, fun body member => ?_, rfl⟩⟩
  exact (plain body member).expansion_eq _ (value body member)

/-- Two expansions of separated plain markers are the same only if their variables are. -/
theorem get?_eq_of_outcome_eq (template : Template)
    (plain : ∀ body ∈ template.bodies, Marker.IsPlainName body)
    (separated : Segment.AreSeparated template.segments) (history : List Call) (names : List Text)
    (listed : (template.variableNames (template.cacheAfter history)).outcome = .ok names)
    (first second : Bindings Datum)
    (firstBound : ∀ name ∈ names, ∃ text, first.get? name = some (.text text))
    (secondBound : ∀ name ∈ names, ∃ text, second.get? name = some (.text text))
    (encode : Option Bool) (encoded : encode.getD template.options.encode = true)
    (firstHistory secondHistory : List Call) :
    (∀ text,
      (template.substitute (template.cacheAfter firstHistory) first encode).outcome = .ok text →
      (template.substitute (template.cacheAfter secondHistory) second encode).outcome = .ok text →
        ∀ name ∈ names, first.get? name = second.get? name) ∧
    ((∃ text,
      (template.substitute (template.cacheAfter firstHistory) first encode).outcome =
        .ok text) ↔ template.fault? first encode = none) ∧
    ((∃ text,
      (template.substitute (template.cacheAfter secondHistory) second encode).outcome =
        .ok text) ↔ template.fault? second encode = none) := by
  rw [outcome_variableNames_of_plain (template.cacheAfter_isSound history) plain,
    Except.ok.injEq] at listed
  subst listed
  simp only [List.mem_eraseDups] at firstBound secondBound ⊢
  have firstExpands := exists_source_of_plain (template.cacheAfter_isSound firstHistory) plain
    firstBound encoded
  have secondExpands := exists_source_of_plain (template.cacheAfter_isSound secondHistory) plain
    secondBound encoded
  refine ⟨fun text success otherSuccess name member => ?_,
    ⟨fun ⟨_, success⟩ => fault?_of_outcome success, fun faultless => ?_⟩,
    ⟨fun ⟨_, success⟩ => fault?_of_outcome success, fun faultless => ?_⟩⟩
  · obtain ⟨source, found, outcome⟩ := firstExpands (fault?_of_outcome success)
    obtain ⟨other, otherFound, otherOutcome⟩ := secondExpands (fault?_of_outcome otherSuccess)
    have same := (Except.ok.inj (outcome.symm.trans success)).trans
      (Except.ok.inj (otherOutcome.symm.trans otherSuccess)).symm
    rw [found name member, otherFound name member,
      Segment.eq_of_flatMap_encodedFill_eq separated same name member]
  · exact (firstExpands faultless).elim fun source found => ⟨_, found.2⟩
  · exact (secondExpands faultless).elim fun source found => ⟨_, found.2⟩

/-- A repeated name or a literal that looks encoded is no obstacle. -/
theorem get?_eq_of_outcome_eq_moved_separator :
    let template : Template :=
      { text := ['{', 'a', '}', '/', '%', '4', '1', '{', 'b', '}', '{', '}', '{', 'a', '}'] }
    let first : Bindings Datum := .ofList
      [(['a'], .text (CodeText.ofText ['/', 'é'])), (['b'], .text [])]
    let second : Bindings Datum := .ofList
      [(['b'], .text []), (['c'], .null), (['a'], .text (CodeText.ofText ['/', 'é']))]
    let names : List Text := [['a'], ['b']]
    (∀ body ∈ template.bodies, Marker.IsPlainName body) ∧
      Segment.AreSeparated template.segments ∧
      (template.variableNames (template.cacheAfter [])).outcome = .ok names ∧
      (∀ name ∈ names, ∃ text, first.get? name = some (.text text)) ∧
      (∀ name ∈ names, ∃ text, second.get? name = some (.text text)) ∧
      template.fault? first (some true) = none ∧ template.fault? second (some true) = none ∧
      ∃ text,
        (template.substitute (template.cacheAfter []) first (some true)).outcome = .ok text ∧
          (template.substitute (template.cacheAfter [.variableNames]) second (some true)).outcome =
            .ok text ∧
          ∀ name ∈ names, first.get? name = second.get? name := by
  intro template first second names
  have segments : template.segments =
      [.marker ['a'], .literal '/', .literal '%', .literal '4', .literal '1', .marker ['b'],
        .literal '{', .literal '}', .marker ['a']] := by decide +kernel
  have plain : ∀ body ∈ template.bodies, Marker.IsPlainName body := by
    intro body member
    rw [bodies, segments] at member
    simp only [Segment.bodies, List.filterMap_cons, Segment.markerBody?, List.filterMap_nil,
      List.mem_cons, List.not_mem_nil, or_false] at member
    obtain rfl | rfl | rfl := member <;> exact ⟨by decide, by decide, by decide⟩
  have separated : Segment.AreSeparated template.segments := by
    rw [segments]
    decide
  have listed : (template.variableNames (template.cacheAfter [])).outcome = .ok names := by
    decide +kernel
  have firstBound : ∀ name ∈ names, ∃ text, first.get? name = some (.text text) := by
    intro name member
    simp only [names, List.mem_cons, List.not_mem_nil, or_false] at member
    obtain rfl | rfl := member <;> exact ⟨_, rfl⟩
  have secondBound : ∀ name ∈ names, ∃ text, second.get? name = some (.text text) := by
    intro name member
    simp only [names, List.mem_cons, List.not_mem_nil, or_false] at member
    obtain rfl | rfl := member <;> exact ⟨_, rfl⟩
  have firstFaultless : template.fault? first (some true) = none := by rfl
  have secondFaultless : template.fault? second (some true) = none := by rfl
  obtain ⟨recovers, firstExpands, _⟩ := template.get?_eq_of_outcome_eq plain separated [] names
    listed first second firstBound secondBound (some true) rfl [] [.variableNames]
  obtain ⟨text, success⟩ := firstExpands.mpr firstFaultless
  have otherSuccess : (template.substitute (template.cacheAfter [.variableNames]) second
      (some true)).outcome = .ok text := by
    rw [← success]
    decide +kernel
  exact ⟨plain, separated, listed, firstBound, secondBound, firstFaultless, secondFaultless,
    text, success, otherSuccess, recovers text success otherSuccess⟩

end Template

end UriExpansion
