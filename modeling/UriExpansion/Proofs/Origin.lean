import UriExpansion.Proofs.Decoding
import UriExpansion.Proofs.Malformed
import UriExpansion.Proofs.NameOrder

namespace UriExpansion

/-- The control characters are those of the two control blocks and the delete character. -/
def Text.isControl (character : Char) : Bool :=
  character.toNat < 0x20 || (0x7F ≤ character.toNat && character.toNat ≤ 0x9F)

namespace Value

/-- A value has one text or the items of its sequence. -/
def texts : Value → List CodeText
  | .scalar text => [text]
  | .sequence items => items

/-- A value is coded if its texts hold nothing but coded characters. -/
def IsCoded (value : Value) : Prop :=
  ∀ text ∈ value.texts, ∀ point ∈ text,
    ∃ character, point = .character character ∧ PercentEncoding.isCoded character = true

theorem mem_joined {separator : CodeText} {value : Value} {point : CodePoint}
    (member : point ∈ value.joined separator) :
    point ∈ separator ∨ ∃ text ∈ value.texts, point ∈ text := by
  cases value with
  | scalar text => exact .inr ⟨text, List.mem_singleton_self text, member⟩
  | sequence items => exact Text.mem_join member

theorem mem_of_mem_texts_ofTexts {datum : Datum} {texts : List CodeText} {text : CodeText}
    {point : CodePoint} (listed : text ∈ (ofTexts datum texts).texts) (member : point ∈ text) :
    text ∈ texts := by
  unfold ofTexts at listed
  split at listed
  · exact listed
  · obtain rfl := List.mem_singleton.mp listed
    cases texts with
    | nil => exact absurd member List.not_mem_nil
    | cons first rest => exact List.mem_cons_self

theorem isCoded_of_ofDatum {datum : Datum} {value : Value}
    (found : ofDatum true datum = .ok value) : value.IsCoded := by
  obtain ⟨texts, related, rfl⟩ := exists_texts_of_ofDatum found
  intro text listed point member
  have inTexts := mem_of_mem_texts_ofTexts listed member
  clear listed found
  generalize datum.parts = parts at related
  induction related with
  | nil => exact absurd inTexts List.not_mem_nil
  | cons head _ inductionHypothesis =>
      rcases List.mem_cons.mp inTexts with rfl | later
      · obtain ⟨source, _, rfl⟩ := eq_of_percentEncoded head
        obtain ⟨character, inside, rfl⟩ := List.mem_map.mp member
        exact ⟨character, rfl, PercentEncoding.isCoded_of_mem_encode inside⟩
      · exact inductionHypothesis later

/-- Values that are prepared with encoding are coded. -/
theorem isCoded_of_prepare {bindings : Bindings Datum} {values : Bindings Value}
    (prepared : prepare true bindings = .ok values) {name : Text} {value : Value}
    (found : values.get? name = some value) : value.IsCoded := by
  obtain ⟨datum, _, rendered⟩ := exists_bound?_of_prepare prepared found
  exact isCoded_of_ofDatum rendered

end Value

namespace Operator

/-- A code point comes from the argument, a variable or a mark. -/
inductive Origin (bound : Bindings Value) (argument : CodeText) (point : CodePoint) : Prop where
  | argument (member : point ∈ argument)
  | name {entry : Text × Value} (listed : entry ∈ bound.entries)
      (member : point ∈ CodeText.ofText entry.1)
  | value {entry : Text × Value} (listed : entry ∈ bound.entries) {text : CodeText}
      (part : text ∈ entry.2.texts) (member : point ∈ text)
  | mark {character : Char} (same : point = .character character)
      (joins : character = ',' ∨ character = '=')

variable {bound : Bindings Value} {argument : CodeText} {point : CodePoint}

theorem exists_entry_of_firstValue? {value : Value} (first : firstValue? bound = some value) :
    ∃ entry ∈ bound.entries, entry.2 = value := by
  obtain ⟨entry, head, same⟩ := Option.map_eq_some_iff.mp first
  exact ⟨entry, List.mem_of_head? head, same⟩

theorem mem_prepended {value : Value} (member : point ∈ prepended argument value) :
    point ∈ argument ∨ point ∈ value.joined argument := by
  simp only [prepended] at member
  split at member
  · exact absurd member List.not_mem_nil
  · exact List.mem_append.mp member

theorem mem_appended {value : Value} (member : point ∈ appended argument value) :
    point ∈ argument ∨ point ∈ value.joined argument := by
  simp only [appended] at member
  split at member
  · exact absurd member List.not_mem_nil
  · exact (List.mem_append.mp member).symm

theorem mem_listed {value : Value} (member : point ∈ listed argument value) :
    point ∈ value.joined argument := by
  unfold listed at member
  split at member
  · exact member
  · exact absurd member List.not_mem_nil

namespace Origin

theorem of_mem_joined {entry : Text × Value} (inBound : entry ∈ bound.entries)
    (member : point ∈ entry.2.joined argument) : Origin bound argument point := by
  rcases Value.mem_joined member with between | ⟨text, part, inside⟩
  · exact .argument between
  · exact .value inBound part inside

theorem of_mem_joined_comma {entry : Text × Value} (inBound : entry ∈ bound.entries)
    (member : point ∈ entry.2.joined [',']) : Origin bound argument point := by
  rcases Value.mem_joined member with between | ⟨text, part, inside⟩
  · exact .mark (List.mem_singleton.mp between) (.inl rfl)
  · exact .value inBound part inside

theorem of_mem_pair {entry : Text × Value} (inBound : entry ∈ bound.entries)
    (member : point ∈ pair entry) : Origin bound argument point := by
  rw [pair, CodeText.ofText_append, List.mem_append, List.mem_append] at member
  rcases member with (inName | equals) | inValue
  · exact .name inBound inName
  · exact .mark (List.mem_singleton.mp equals) (.inr rfl)
  · exact of_mem_joined_comma inBound inValue

theorem of_mem_join_pairs (member : point ∈ Text.join argument (pairs bound)) :
    Origin bound argument point := by
  rcases Text.mem_join member with between | ⟨part, inPairs, inside⟩
  · exact .argument between
  · obtain ⟨entry, kept, rfl⟩ := List.mem_map.mp inPairs
    have inBound : entry ∈ bound.entries :=
      (perm_sortedByName bound).mem_iff.mp (List.mem_filter.mp kept).1
    exact of_mem_pair inBound inside

/-- An operation on the first value keeps the origins that its change keeps. -/
theorem of_mem_firstValue? {change : Value → CodeText} {result : CodeText}
    (applied : (firstValue? bound).map change = some result)
    (changed : ∀ entry ∈ bound.entries, point ∈ change entry.2 →
      Origin bound argument point)
    (member : point ∈ result) : Origin bound argument point := by
  obtain ⟨value, first, rfl⟩ := Option.map_eq_some_iff.mp applied
  obtain ⟨entry, inBound, rfl⟩ := exists_entry_of_firstValue? first
  exact changed entry inBound member

/-- Every code point of a result has an origin. -/
theorem of_mem_apply {operator : Operator} {result : CodeText}
    (applied : operator.apply bound argument = some result) (member : point ∈ result) :
    Origin bound argument point := by
  rw [apply_eq] at applied
  cases operator with
  | plain =>
      exact of_mem_firstValue? applied (fun _ inBound => of_mem_joined_comma inBound) member
  | prepend =>
      refine of_mem_firstValue? applied (fun entry inBound inside => ?_) member
      exact (mem_prepended inside).elim .argument (of_mem_joined inBound)
  | append =>
      refine of_mem_firstValue? applied (fun entry inBound inside => ?_) member
      exact (mem_appended inside).elim .argument (of_mem_joined inBound)
  | join =>
      obtain rfl := Option.some.inj applied
      exact of_mem_join_pairs member
  | list =>
      refine of_mem_firstValue? applied (fun entry inBound inside => ?_) member
      exact of_mem_joined inBound (mem_listed inside)
  | opt =>
      obtain rfl := Option.some.inj applied
      exact .argument (List.mem_ite_nil_right.mp member).2
  | neg =>
      obtain rfl := Option.some.inj applied
      exact .argument (List.mem_ite_nil_right.mp member).2
  | unknown =>
      obtain rfl := Option.some.inj applied
      exact absurd member List.not_mem_nil

end Origin

end Operator

namespace Marker

/-- The names and the defaults of a list of variables are parts of it. -/
theorem mem_of_mem_defaultsOf {declared : Text} {entry : Text × Text}
    (listed : entry ∈ (defaultsOf declared).entries) {character : Char}
    (member : character ∈ entry.1 ∨ character ∈ entry.2) : character ∈ declared := by
  obtain ⟨part, inParts, rfl⟩ := List.mem_map.mp (Bindings.mem_entries_ofList listed)
  apply Text.mem_of_mem_splitOn inParts
  exact member.elim Text.mem_of_mem_cutAt_fst Text.mem_of_mem_cutAt_snd

theorem mem_body_of_mem_argument {body : Text} {marker : Marker}
    (parsed : parse body = .ok marker) {character : Char} (member : character ∈ marker.argument) :
    character ∈ body := by
  rcases cases_of_parse parsed with ⟨_, rfl⟩ | ⟨written, argument, declared, rfl, _, rfl⟩
  · exact absurd member List.not_mem_nil
  · exact Text.mem_join_of_mem (by simp) member

theorem mem_body_of_mem_defaults {body : Text} {marker : Marker}
    (parsed : parse body = .ok marker) {entry : Text × Text}
    (listed : entry ∈ marker.defaults.entries) {character : Char}
    (member : character ∈ entry.1 ∨ character ∈ entry.2) : character ∈ body := by
  rcases cases_of_parse parsed with ⟨_, rfl⟩ | ⟨written, argument, declared, rfl, _, rfl⟩
  · exact mem_of_mem_defaultsOf listed member
  · exact Text.mem_join_of_mem (by simp) (mem_of_mem_defaultsOf listed member)

end Marker

namespace Text

/-- An expansion may add unreserved characters, percent signs, commas and equals signs. -/
def isAdded (character : Char) : Bool :=
  PercentEncoding.isUnreserved character || character ∈ ['%', ',', '=']

theorem isAdded_of_isCoded {character : Char} (coded : PercentEncoding.isCoded character = true) :
    isAdded character = true := by
  rw [PercentEncoding.isCoded, Bool.or_eq_true, beq_iff_eq] at coded
  rcases coded with unreserved | rfl
  · rw [isAdded, unreserved, Bool.true_or]
  · decide

/-- The added characters are visible ASCII characters other than the braces and the bar. -/
theorem bounds_of_isAdded {character : Char} (added : isAdded character = true) :
    character.toNat < 0x7F ∧ isControl character = false ∧
      character ∉ [' ', '{', '}', '|'] := by
  have ascii : character.toNat < 0x80 := by
    simp only [isAdded, Bool.or_eq_true, decide_eq_true_eq, List.mem_cons, List.not_mem_nil,
      or_false] at added
    rcases added with unreserved | rfl | rfl | rfl
    · exact Nat.lt_succ_of_le (PercentEncoding.toNat_le_of_isUnreserved unreserved)
    all_goals decide
  have each : ∀ code < 0x80, isAdded (Char.ofNat code) = true →
      (Char.ofNat code).toNat < 0x7F ∧ isControl (Char.ofNat code) = false ∧
        Char.ofNat code ∉ [' ', '{', '}', '|'] := by
    decide
  have own := each character.toNat ascii
  rw [Char.ofNat_toNat] at own
  exact own added

end Text

/-- A code point is a character of a text or an added one. -/
abbrev CodePoint.IsOf (text : Text) (point : CodePoint) : Prop :=
  ∃ character, point = .character character ∧
    (character ∈ text ∨ Text.isAdded character = true)

namespace Segment

variable {values : Bindings Value} {point : CodePoint}

theorem mem_text_of_mem_render {text : Text} {segment : Segment} (listed : segment ∈ scan text)
    {character : Char} (member : character ∈ render segment) : character ∈ text := by
  rw [← render_scan text]
  exact List.mem_flatMap.mpr ⟨segment, listed, member⟩

/-- A bound variable has a coded value or its declared default. -/
theorem isOf_of_mem_bind
    (coded : ∀ name value, values.get? name = some value → value.IsCoded) {body : Text}
    {marker : Marker} (parsed : Marker.parse body = .ok marker) {entry : Text × Value}
    (listed : entry ∈ (Template.bind values marker.defaults).entries)
    (member : point ∈ CodeText.ofText entry.1 ∨ ∃ text ∈ entry.2.texts, point ∈ text) :
    point.IsOf body := by
  obtain ⟨⟨name, default⟩, declared, rfl⟩ := List.mem_map.mp listed
  have inBody {character : Char} (inside : character ∈ name ∨ character ∈ default) :
      character ∈ body :=
    Marker.mem_body_of_mem_defaults parsed declared inside
  rcases member with inName | ⟨text, part, inside⟩
  · obtain ⟨character, spelled, rfl⟩ := List.mem_map.mp inName
    exact ⟨character, rfl, .inl (inBody (.inl spelled))⟩
  · simp only at part
    cases found : values.get? name with
    | none =>
        rw [found] at part
        obtain rfl := List.mem_singleton.mp part
        obtain ⟨character, spelled, rfl⟩ := List.mem_map.mp inside
        exact ⟨character, rfl, .inl (inBody (.inr spelled))⟩
    | some value =>
        rw [found] at part
        obtain ⟨character, rfl, added⟩ := coded name value found text part point inside
        exact ⟨character, rfl, .inr (Text.isAdded_of_isCoded added)⟩

/-- An expanded marker adds only the added characters to those of its body. -/
theorem isOf_of_mem_expansion
    (coded : ∀ name value, values.get? name = some value → value.IsCoded)
    {policy : MalformedPolicy} {body : Text} {text : CodeText}
    (expanded : expansion policy values (.marker body) = .ok text) (member : point ∈ text) :
    point.IsOf body := by
  rcases Marker.parse_cases body with ⟨_, marker, parsed⟩ | ⟨_, refused⟩
  · simp only [expansion, effect, parsed, Template.expandMarker] at expanded
    cases applied : marker.operator.apply (Template.bind values marker.defaults)
        (CodeText.ofText marker.argument) with
    | none =>
        rw [applied] at expanded
        exact absurd expanded (by simp)
    | some result =>
        rw [applied] at expanded
        obtain rfl : result = text := Except.ok.inj expanded
        cases Operator.Origin.of_mem_apply applied member with
        | argument inside =>
            obtain ⟨character, spelled, rfl⟩ := List.mem_map.mp inside
            exact ⟨character, rfl, .inl (Marker.mem_body_of_mem_argument parsed spelled)⟩
        | name listed inside => exact isOf_of_mem_bind coded parsed listed (.inl inside)
        | value listed part inside =>
            exact isOf_of_mem_bind coded parsed listed (.inr ⟨_, part, inside⟩)
        | mark same joins =>
            refine ⟨_, same, .inr ?_⟩
            rcases joins with rfl | rfl <;> decide
  · simp only [expansion, effect, refused, Template.expandMarker] at expanded
    cases policy with
    | raise => exact absurd expanded (by simp)
    | skip =>
        obtain rfl : [] = text := Except.ok.inj expanded
        exact absurd member List.not_mem_nil

end Segment

namespace Template

/-- The code points of an expansion stand in the template or are added characters. -/
theorem isOf_of_mem_outcome {template : Template} {cache : Cache} (sound : cache.IsSound)
    {bindings : Bindings Datum} {encode : Option Bool}
    (encoded : encode.getD template.options.encode = true) {result : CodeText}
    (success : (template.substitute cache bindings encode).outcome = .ok result)
    {point : CodePoint} (member : point ∈ result) : point.IsOf template.text := by
  obtain ⟨values, prepared⟩ := exists_prepare_of_outcome success
  obtain ⟨replacement, each, rfl⟩ :=
    (outcome_eq_ok_iff_of_prepare sound prepared result).mp success
  rw [prepare, encoded] at prepared
  obtain ⟨segment, listed, inside⟩ := List.mem_flatMap.mp member
  cases segment with
  | literal character =>
      obtain rfl := List.mem_singleton.mp inside
      exact ⟨character, rfl,
        .inl (Segment.mem_text_of_mem_render listed (List.mem_singleton_self character))⟩
  | marker body =>
      have expanded := each body (Segment.mem_bodies_iff.mpr listed)
      obtain ⟨character, rfl, origin⟩ := Segment.isOf_of_mem_expansion
        (fun _ _ => Value.isCoded_of_prepare prepared) expanded inside
      refine ⟨character, rfl, origin.imp_left fun inBody => ?_⟩
      apply Segment.mem_text_of_mem_render listed
      simp [Segment.render, inBody]

/-- An encoded expansion holds characters of its template and added ones. -/
theorem mem_text_or_isUnreserved_of_mem_outcome (template : Template) (history : List Call)
    (encode : Option Bool) (encoded : encode.getD template.options.encode = true)
    (bindings : Bindings Datum) (result : CodeText)
    (success : (template.substitute (template.cacheAfter history) bindings encode).outcome =
      .ok result) :
    ∃ text : Text, result = CodeText.ofText text ∧
      (∀ character ∈ text, character ∈ template.text ∨
        PercentEncoding.isUnreserved character = true ∨ character ∈ ['%', ',', '=']) ∧
      ((∀ character ∈ template.text, character.toNat < 0x80) →
        ∀ character ∈ text, character.toNat < 0x80) ∧
      ∀ character ∈ text, Text.isControl character = true ∨ character ∈ [' ', '{', '}', '|'] →
        character ∈ template.text := by
  have origins (point : CodePoint) (member : point ∈ result) : point.IsOf template.text :=
    isOf_of_mem_outcome (template.cacheAfter_isSound history) encoded success member
  obtain ⟨text, rfl⟩ : ∃ text, result = CodeText.ofText text := by
    cases read : result.toText? with
    | some text => exact ⟨text, CodeText.toText?_eq_some_iff.mp read⟩
    | none =>
        obtain ⟨index, member⟩ := CodeText.toText?_eq_none_iff.mp read
        obtain ⟨character, same, _⟩ := origins _ member
        cases same
  have origin (character : Char) (member : character ∈ text) :
      character ∈ template.text ∨ Text.isAdded character = true := by
    obtain ⟨other, same, found⟩ := origins _ (CodeText.character_mem_ofText.mpr member)
    cases same
    exact found
  refine ⟨text, rfl, fun character member => ?_, fun ascii character member => ?_,
    fun character member foreign => ?_⟩
  · refine (origin character member).imp_right fun added => ?_
    simpa only [Text.isAdded, Bool.or_eq_true, decide_eq_true_eq] using added
  · rcases origin character member with inText | added
    · exact ascii character inText
    · exact Nat.lt_succ_of_lt (Text.bounds_of_isAdded added).1
  · refine (origin character member).resolve_right fun added => ?_
    obtain ⟨_, visible, others⟩ := Text.bounds_of_isAdded added
    rcases foreign with control | mark
    · exact absurd (control.symm.trans visible) (by decide)
    · exact others mark

/-- No brace, bar or line feed of a value comes through. -/
theorem mem_text_or_isUnreserved_of_mem_outcome_delimiters :
    let template : Template :=
      { text := "\x7ba\x7d?\x7bb,x\x7d&\x7bc\x7d\x7b-prefix|/|d\x7d".toList }
    let bindings : Bindings Datum := .ofList
      [(['a'], .text (CodeText.ofText ['{', '|', '\n', 'é'])),
        (['b'], .mapping [(.integer 1, .null)]),
        (['c'], .list [.bytes [0xFF], .boolean true]),
        (['d'], .tuple [.text [], .text [.character ' ']])]
    let shown : Text := "%7B%7C%0A%C3%A9?%7B1%3A%20None%7D&b%27%5Cxff%27,true//%20".toList
    (some true).getD template.options.encode = true ∧
      (template.substitute (template.cacheAfter [.variableNames]) bindings (some true)).outcome =
        .ok (CodeText.ofText shown) ∧
      ∃ text : Text, CodeText.ofText shown = CodeText.ofText text ∧
        (∀ character ∈ text, character ∈ template.text ∨
          PercentEncoding.isUnreserved character = true ∨ character ∈ ['%', ',', '=']) ∧
        ((∀ character ∈ template.text, character.toNat < 0x80) →
          ∀ character ∈ text, character.toNat < 0x80) ∧
        ∀ character ∈ text, Text.isControl character = true ∨ character ∈ [' ', '{', '}', '|'] →
          character ∈ template.text := by
  intro template bindings shown
  have success : (template.substitute (template.cacheAfter [.variableNames]) bindings
      (some true)).outcome = .ok (CodeText.ofText shown) := by
    decide +kernel
  exact ⟨rfl, success, template.mem_text_or_isUnreserved_of_mem_outcome [.variableNames] (some true)
    rfl bindings _ success⟩

end Template

end UriExpansion
