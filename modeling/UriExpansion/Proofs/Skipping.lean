import UriExpansion.Proofs.Division
import UriExpansion.Proofs.Malformed

namespace UriExpansion

namespace Segment

/-- Every literal character and each marker whose body passes a test is kept. -/
def keeps (keep : Text → Bool) : Segment → Bool
  | .literal _ => true
  | .marker body => keep body

variable {keep : Text → Bool}

/-- The kept segments of a text contain no other characters than the text. -/
theorem mem_of_mem_kept {text : Text} {character : Char}
    (member : character ∈ ((scan text).filter (keeps keep)).flatMap render) : character ∈ text := by
  obtain ⟨segment, kept, inside⟩ := List.mem_flatMap.mp member
  have whole : character ∈ (scan text).flatMap render :=
    List.mem_flatMap.mpr ⟨segment, (List.mem_filter.mp kept).1, inside⟩
  rwa [render_scan] at whole

/-- A brace that opens no marker opens none after later markers are deleted. -/
theorem body?_kept_eq_none {text : Text} (absent : body? text = none) :
    body? (((scan text).filter (keeps keep)).flatMap render) = none := by
  apply body?_eq_none_iff.mpr
  rcases body?_eq_none_iff.mp absent with head | unclosed
  · -- The closing brace that follows at once is literal and stays there.
    left
    obtain ⟨rest, rfl⟩ := List.head?_eq_some_iff.mp head
    have other : '}' ≠ '{' := by decide
    rw [scan_literal other, List.filter_cons_of_pos rfl, List.flatMap_cons]
    rfl
  · right
    intro member
    exact unclosed (mem_of_mem_kept member)

/-- The scan of the kept segments finds these segments again. -/
theorem scan_kept (text : Text) :
    scan (((scan text).filter (keeps keep)).flatMap render) = (scan text).filter (keeps keep) := by
  fun_induction scan text with
  | case1 => exact scan_nil
  | case2 rest body tail found inductionHypothesis =>
      obtain ⟨_, nonempty, closed⟩ := body?_eq_some_iff.mp found
      by_cases kept : keep body = true
      · have pass : keeps keep (.marker body) = true := kept
        have written (later : Text) :
            render (.marker body) ++ later = '{' :: body ++ '}' :: later := by
          simp [render]
        rw [List.filter_cons_of_pos pass, List.flatMap_cons, written,
          scan_marker nonempty closed, inductionHypothesis]
      · have drop : ¬keeps keep (.marker body) = true := kept
        rw [List.filter_cons_of_neg drop, inductionHypothesis]
  | case3 rest absent inductionHypothesis =>
      have literal : render (.literal '{') = ['{'] := rfl
      rw [List.filter_cons_of_pos rfl, List.flatMap_cons, literal, List.singleton_append,
        scan_brace (body?_kept_eq_none absent), inductionHypothesis]
  | case4 character rest other inductionHypothesis =>
      have literal : render (.literal character) = [character] := rfl
      rw [List.filter_cons_of_pos rfl, List.flatMap_cons, literal, List.singleton_append,
        scan_literal other, inductionHypothesis]

/-- The literal characters and the markers that are not malformed are kept. -/
abbrev isWellFormed : Segment → Bool :=
  keeps Marker.isWellFormed

theorem expansion_of_skip {body : Text} (malformed : Marker.isMalformed body = true)
    (values : Bindings Value) : expansion .skip values (.marker body) = .ok [] := by
  rw [expansion, effect, Marker.parse_of_isMalformed malformed]
  rfl

/-- The policy does not count for a marker that is not malformed. -/
theorem expansion_policy {body : Text} (wellFormed : Marker.isMalformed body = false)
    (policy other : MalformedPolicy) (values : Bindings Value) :
    expansion policy values (.marker body) = expansion other values (.marker body) := by
  obtain ⟨marker, parsed⟩ := Marker.exists_parse wellFormed
  rw [expansion, expansion, effect, effect, parsed]
  rfl

/-- Segments that are filled with nothing may be left out. -/
theorem flatMap_fill_filter {replacement : Text → CodeText} {segments : List Segment}
    (dropped : ∀ body, .marker body ∈ segments → keep body = false → replacement body = []) :
    (segments.filter (keeps keep)).flatMap (fill replacement) =
      segments.flatMap (fill replacement) := by
  induction segments with
  | nil => rfl
  | cons segment rest inductionHypothesis =>
      have later := inductionHypothesis fun body member =>
        dropped body (List.mem_cons_of_mem segment member)
      by_cases kept : keeps keep segment = true
      · rw [List.filter_cons_of_pos kept, List.flatMap_cons, List.flatMap_cons, later]
      · rw [List.filter_cons_of_neg kept, List.flatMap_cons, later]
        cases segment with
        | literal character => exact absurd rfl kept
        | marker body =>
            have empty := dropped body List.mem_cons_self (Bool.eq_false_iff.mpr kept)
            rw [fill, empty, List.nil_append]

end Segment

namespace Template

/-- The same text under another policy. -/
def underPolicy (policy : MalformedPolicy) (template : Template) : Template :=
  { template with options := { template.options with onMalformed := policy } }

/-- Each malformed marker is deleted with its braces. -/
def withoutMalformed (template : Template) : Template :=
  { template with text := (template.segments.filter Segment.isWellFormed).flatMap Segment.render }

/-- The deletion of the malformed markers leaves all other segments as they are. -/
theorem segments_withoutMalformed (template : Template) :
    template.withoutMalformed.segments = template.segments.filter Segment.isWellFormed :=
  Segment.scan_kept template.text

/-- A deletion may bring a pair and a closing brace together. -/
example : (withoutMalformed { text := ['{', '}', '{', 'x', '|', 'y', '}', '}'] }).segments =
    [.literal '{', .literal '}', .literal '}'] := by
  decide +kernel

theorem mem_bodies_of_mem_withoutMalformed {template : Template} {body : Text}
    (member : body ∈ template.withoutMalformed.bodies) :
    Marker.isMalformed body = false ∧ body ∈ template.bodies := by
  rw [bodies, segments_withoutMalformed, Segment.mem_bodies_iff, List.mem_filter] at member
  obtain ⟨inside, kept⟩ := member
  have wellFormed : Marker.isWellFormed body = true := kept
  exact ⟨by simpa using wellFormed, Segment.mem_bodies_iff.mpr inside⟩

/-- A text under the skipping policy is the text without the malformed markers. -/
theorem outcome_withoutMalformed_of_skip {template : Template} {cache otherCache : Cache}
    (sound : cache.IsSound) (otherSound : otherCache.IsSound) {bindings : Bindings Datum}
    {encode : Option Bool} {values : Bindings Value} {text : CodeText}
    (prepared : template.prepare bindings encode = .ok values)
    (success : ((template.underPolicy .skip).substitute cache bindings encode).outcome =
      .ok text) :
    ((template.withoutMalformed.underPolicy .raise).substitute otherCache bindings
      encode).outcome = .ok text := by
  have skipPrepared : (template.underPolicy .skip).prepare bindings encode = .ok values := prepared
  have raisePrepared :
      (template.withoutMalformed.underPolicy .raise).prepare bindings encode = .ok values :=
    prepared
  rw [outcome_eq_ok_iff_of_prepare sound skipPrepared] at success
  rw [outcome_eq_ok_iff_of_prepare otherSound raisePrepared]
  obtain ⟨replacement, each, filled⟩ := success
  refine ⟨replacement, ?_, ?_⟩
  · intro body member
    obtain ⟨wellFormed, inside⟩ := mem_bodies_of_mem_withoutMalformed member
    rw [← each body inside]
    exact Segment.expansion_policy wellFormed _ _ _
  · -- A malformed marker was filled with nothing, so its place may be left out.
    have dropped (body : Text) (member : .marker body ∈ template.segments)
        (malformed : Marker.isWellFormed body = false) : replacement body = [] := by
      have expanded := each body (Segment.mem_bodies_iff.mpr member)
      have skipped := Segment.expansion_of_skip (by simpa using malformed) values
      exact Except.ok.inj (expanded.symm.trans skipped)
    calc
      text = template.segments.flatMap (Segment.fill replacement) := filled
      _ = (template.segments.filter Segment.isWellFormed).flatMap (Segment.fill replacement) :=
          (Segment.flatMap_fill_filter dropped).symm
      _ = template.withoutMalformed.segments.flatMap (Segment.fill replacement) :=
          congrArg _ template.segments_withoutMalformed.symm

/-- A template under the skipping policy expands like the rest without its malformed markers. -/
theorem outcome_skip_eq_outcome_withoutMalformed (template : Template) :
    template.withoutMalformed.segments = template.segments.filter Segment.isWellFormed ∧
      ∀ (history otherHistory : List Call) (bindings : Bindings Datum) (encode : Option Bool),
        let skipping := template.underPolicy .skip
        let raising := template.withoutMalformed.underPolicy .raise
        (template.fault? bindings encode = none → ∃ text,
          (skipping.substitute (skipping.cacheAfter history) bindings encode).outcome = .ok text ∧
          (raising.substitute (raising.cacheAfter otherHistory) bindings encode).outcome =
            .ok text) ∧
        ∀ cause, template.fault? bindings encode = some cause →
          (skipping.substitute (skipping.cacheAfter history) bindings encode).outcome =
            .error (.unprepared cause) ∧
          (raising.substitute (raising.cacheAfter otherHistory) bindings encode).outcome =
            .error (.unprepared cause) := by
  refine ⟨template.segments_withoutMalformed, ?_⟩
  intro history otherHistory bindings encode skipping raising
  constructor
  · intro faultless
    have sound := skipping.cacheAfter_isSound history
    obtain ⟨values, prepared⟩ := exists_prepare_iff.mpr faultless
    have skipFaultless : skipping.fault? bindings encode = none := faultless
    obtain ⟨text, success⟩ := exists_outcome_of_skip sound rfl skipFaultless
    exact ⟨text, success, outcome_withoutMalformed_of_skip sound
      (raising.cacheAfter_isSound otherHistory) prepared success⟩
  · intro cause faulty
    have skipped : skipping.fault? bindings encode = some cause := faulty
    have raised : raising.fault? bindings encode = some cause := faulty
    rw [substitute_of_fault? skipped, substitute_of_fault? raised]
    exact ⟨rfl, rfl⟩

/-- A pair of braces before a malformed marker stays literal. -/
theorem outcome_skip_eq_outcome_withoutMalformed_paired_braces :
    let template : Template := { text := ['{', '}', '{', 'x', '|', 'y', '}', '}', '{', 'a', '}'] }
    let skipping := template.underPolicy .skip
    let raising := template.withoutMalformed.underPolicy .raise
    let bindings := .ofList [(['a'], .text [.surrogate 0])]
    (template.fault? bindings (some false) = none ∧ ∃ text,
      (skipping.substitute (skipping.cacheAfter []) bindings (some false)).outcome = .ok text ∧
      (raising.substitute (raising.cacheAfter []) bindings (some false)).outcome = .ok text) ∧
    template.fault? bindings none = some (.loneSurrogate [.surrogate 0]) ∧
      (skipping.substitute (skipping.cacheAfter []) bindings none).outcome =
        .error (.unprepared (.loneSurrogate [.surrogate 0])) ∧
      (raising.substitute (raising.cacheAfter []) bindings none).outcome =
        .error (.unprepared (.loneSurrogate [.surrogate 0])) := by
  intro template skipping raising bindings
  have faultless : template.fault? bindings (some false) = none := by rfl
  have faulty : template.fault? bindings none = some (.loneSurrogate [.surrogate 0]) := by rfl
  have plain := (outcome_skip_eq_outcome_withoutMalformed template).2 [] [] bindings (some false)
  have encoded := (outcome_skip_eq_outcome_withoutMalformed template).2 [] [] bindings none
  exact ⟨⟨faultless, plain.1 faultless⟩, faulty, encoded.2 _ faulty⟩

/-- A template without its malformed markers still fails at a lone surrogate. -/
theorem outcome_withoutMalformed_of_loneSurrogate :
    let template : Template := { text := ['{', 'x', '|', 'y', '}', 'a'] }
    let raising := template.withoutMalformed.underPolicy .raise
    let bindings := .ofList [(['x'], .text [.surrogate 0])]
    raising.text = ['a'] ∧
      (raising.substitute .empty bindings none).outcome =
        .error (.unprepared (.loneSurrogate [.surrogate 0])) :=
  ⟨by decide +kernel, by rfl⟩

end Template

end UriExpansion
