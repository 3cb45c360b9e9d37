import Mathlib.Logic.ExistsUnique
import UriExpansion.Proofs.Effect

namespace UriExpansion

/-- The rest of a literal after each of its opening braces satisfies a condition. -/
def AfterBraces (condition : Text → Prop) (literal : Text) : Prop :=
  ∀ before after, literal = before ++ '{' :: after → condition after

namespace AfterBraces

variable {condition : Text → Prop}

theorem nil : AfterBraces condition [] := by
  intro before after equal
  exact absurd equal (by simp)

theorem cons_iff {character : Char} {literal : Text} :
    AfterBraces condition (character :: literal) ↔
      (character = '{' → condition literal) ∧ AfterBraces condition literal := by
  constructor
  · intro whole
    refine ⟨?_, ?_⟩
    · rintro rfl
      exact whole [] literal rfl
    · rintro before after rfl
      exact whole (character :: before) after rfl
  · rintro ⟨first, later⟩ before after equal
    cases before with
    | nil =>
        obtain ⟨rfl, rfl⟩ := List.cons.inj equal
        exact first rfl
    | cons head before =>
        obtain ⟨rfl, rfl⟩ := List.cons.inj equal
        exact later before after rfl

theorem imp {weaker : Text → Prop} (implied : ∀ after, condition after → weaker after)
    {literal : Text} (whole : AfterBraces condition literal) : AfterBraces weaker literal :=
  fun before after equal => implied after (whole before after equal)

instance decidable [DecidablePred condition] :
    (literal : Text) → Decidable (AfterBraces condition literal)
  | [] => isTrue nil
  | _ :: literal =>
      have : Decidable (AfterBraces condition literal) := decidable literal
      decidable_of_iff _ cons_iff.symm

end AfterBraces

/-- A closing brace follows each opening brace of a paired literal. -/
abbrev IsPaired : Text → Prop :=
  AfterBraces fun after => after.head? = some '}'

/-- An opening brace of a last literal may stay open. -/
abbrev IsPairedOrOpen : Text → Prop :=
  AfterBraces fun after => after.head? = some '}' ∨ '}' ∉ after

/-- Each literal of a division has a body after it, except the last. -/
@[ext] structure Division where
  parts : List (Text × Text)
  last : Text
  bodies_closed : ∀ part ∈ parts, part.2 ≠ [] ∧ '}' ∉ part.2
  literals_paired : ∀ part ∈ parts, IsPaired part.1
  last_pairedOrOpen : IsPairedOrOpen last

namespace Division

/-- The bodies of a division in order. -/
def bodies (division : Division) : List Text :=
  division.parts.map Prod.snd

/-- A replacement for each body stands between the literals. -/
def fill (division : Division) (replacement : Text → CodeText) : CodeText :=
  division.parts.flatMap (fun part => CodeText.ofText part.1 ++ replacement part.2) ++
    CodeText.ofText division.last

/-- A division is written with its bodies in braces. -/
def render (division : Division) : Text :=
  division.parts.flatMap (fun part => part.1 ++ '{' :: part.2 ++ ['}']) ++ division.last

/-- The segments of a division are the characters of its literals and its markers. -/
def segments (division : Division) : List Segment :=
  division.parts.flatMap (fun part => part.1.map .literal ++ [.marker part.2]) ++
    division.last.map .literal

@[simp] theorem bodies_segments (division : Division) :
    Segment.bodies division.segments = division.bodies := by
  have literal (text : Text) : (text.map Segment.literal).filterMap Segment.markerBody? = [] := by
    simp [List.filterMap_map, Function.comp_def, Segment.markerBody?]
  simp only [Segment.bodies, segments, bodies, List.filterMap_append, List.filterMap_flatMap,
    literal]
  rw [List.map_eq_flatMap, List.append_nil]
  rfl

/-- The replacements that fill the segments fill the division. -/
theorem flatMap_segments (division : Division) (replacement : Text → CodeText) :
    division.segments.flatMap (Segment.fill replacement) = division.fill replacement := by
  have literal (text : Text) :
      (text.map Segment.literal).flatMap (Segment.fill replacement) = CodeText.ofText text := by
    rw [List.flatMap_map]
    exact List.map_eq_flatMap.symm
  simp only [segments, fill, List.flatMap_append, List.flatMap_assoc, literal]
  simp [Segment.fill]

theorem render_eq (division : Division) :
    division.render = division.segments.flatMap Segment.render := by
  have literal (text : Text) : (text.map Segment.literal).flatMap Segment.render = text := by
    simp [List.flatMap_map, Segment.render]
  simp only [segments, render, List.flatMap_append, List.flatMap_assoc, literal]
  simp [Segment.render]

end Division

namespace Segment

theorem body?_eq_none_iff {text : Text} :
    body? text = none ↔ text.head? = some '}' ∨ '}' ∉ text := by
  constructor
  · intro absent
    by_cases present : '}' ∈ text
    · left
      cases text with
      | nil => simp at present
      | cons character rest =>
          by_cases same : character = '}'
          · rw [same, List.head?_cons]
          · simp [body?, present, Text.cutAt, same] at absent
    · exact .inr present
  · rintro (head | absent)
    · obtain ⟨rest, rfl⟩ := List.head?_eq_some_iff.mp head
      simp [body?, Text.cutAt]
    · simp [body?, absent]

/-- A literal is copied if no body starts in it. -/
theorem scan_append {literal rest : Text}
    (noBody : AfterBraces (fun after => body? (after ++ rest) = none) literal) :
    scan (literal ++ rest) = literal.map .literal ++ scan rest := by
  induction literal with
  | nil => rfl
  | cons character literal inductionHypothesis =>
      obtain ⟨first, later⟩ := AfterBraces.cons_iff.mp noBody
      have tail := inductionHypothesis later
      by_cases brace : character = '{'
      · rw [brace, List.cons_append, scan_brace (first brace), tail]
        rfl
      · rw [List.cons_append, scan_literal brace, tail]
        rfl

/-- The scan copies a paired literal, whatever follows it. -/
theorem scan_paired {literal : Text} (paired : IsPaired literal) (rest : Text) :
    scan (literal ++ rest) = literal.map .literal ++ scan rest := by
  apply scan_append
  refine paired.imp fun after closed => body?_eq_none_iff.mpr (.inl ?_)
  rw [List.head?_append, closed]
  rfl

/-- The scan copies a last literal. -/
theorem scan_pairedOrOpen {literal : Text} (opens : IsPairedOrOpen literal) :
    scan literal = literal.map .literal := by
  have noBody : AfterBraces (fun after => body? (after ++ []) = none) literal := by
    refine opens.imp fun after condition => ?_
    rw [List.append_nil]
    exact body?_eq_none_iff.mpr condition
  have copied := scan_append noBody
  rwa [scan_nil, List.append_nil, List.append_nil] at copied

end Segment

namespace Division

/-- The scan of a written division gives its segments. -/
theorem scan_render (division : Division) : Segment.scan division.render = division.segments := by
  obtain ⟨parts, last, closed, paired, opens⟩ := division
  simp only [render, segments]
  induction parts with
  | nil => exact Segment.scan_pairedOrOpen opens
  | cons part parts inductionHypothesis =>
      have tail := inductionHypothesis (fun other member => closed other (.tail part member))
        (fun other member => paired other (.tail part member))
      obtain ⟨nonempty, absent⟩ := closed part List.mem_cons_self
      simp only [List.flatMap_cons, List.append_assoc, List.cons_append, List.nil_append] at tail ⊢
      rw [Segment.scan_paired (paired part List.mem_cons_self), ← List.cons_append,
        Segment.scan_marker nonempty absent, tail]

/-- Segments are gathered into literals and bodies. -/
def gather : List Segment → List (Text × Text) × Text
  | [] => ([], [])
  | .literal character :: rest =>
      match gather rest with
      | ([], last) => ([], character :: last)
      | (part :: parts, last) => ((character :: part.1, part.2) :: parts, last)
  | .marker body :: rest => (([], body) :: (gather rest).1, (gather rest).2)

theorem gather_literals (text : Text) : gather (text.map .literal) = ([], text) := by
  induction text with
  | nil => rfl
  | cons character text inductionHypothesis =>
      rw [List.map_cons, gather, inductionHypothesis]

theorem gather_part (literal body : Text) (rest : List Segment) :
    gather (literal.map .literal ++ .marker body :: rest) =
      ((literal, body) :: (gather rest).1, (gather rest).2) := by
  induction literal with
  | nil => rfl
  | cons character literal inductionHypothesis =>
      rw [List.map_cons, List.cons_append, gather, inductionHypothesis]

/-- The segments of a division are gathered into its parts. -/
theorem gather_segments (division : Division) :
    gather division.segments = (division.parts, division.last) := by
  obtain ⟨parts, last, closed, paired, opens⟩ := division
  simp only [segments]
  clear closed paired opens
  induction parts with
  | nil => exact gather_literals last
  | cons part parts inductionHypothesis =>
      simp only [List.flatMap_cons, List.append_assoc, List.cons_append, List.nil_append]
      rw [gather_part, inductionHypothesis]

/-- A character joins the first literal unless it opens a marker. -/
theorem exists_cons_literal (division : Division) (character : Char)
    (noMarker : character = '{' → division.render.head? = some '}' ∨ '}' ∉ division.render) :
    ∃ next : Division, next.segments = .literal character :: division.segments := by
  obtain ⟨parts, last, closed, paired, opens⟩ := division
  cases parts with
  | nil =>
      have opens' : IsPairedOrOpen (character :: last) := AfterBraces.cons_iff.mpr ⟨noMarker, opens⟩
      exact ⟨⟨[], character :: last, closed, paired, opens'⟩, rfl⟩
  | cons part parts =>
      obtain ⟨literal, body⟩ := part
      obtain ⟨bodyClosed, closed⟩ := List.forall_mem_cons.mp closed
      obtain ⟨literalPaired, paired⟩ := List.forall_mem_cons.mp paired
      have literalPaired' : IsPaired (character :: literal) := by
        refine AfterBraces.cons_iff.mpr ⟨fun brace => ?_, literalPaired⟩
        -- The brace that closes the first body stands after the literal.
        obtain head | absent := noMarker brace
        · cases literal with
          | nil => simp [render] at head
          | cons first rest => simpa [render] using head
        · simp [render] at absent
      exact ⟨⟨(character :: literal, body) :: parts, last,
        List.forall_mem_cons.mpr ⟨bodyClosed, closed⟩,
        List.forall_mem_cons.mpr ⟨literalPaired', paired⟩, opens⟩, rfl⟩

/-- A marker starts a division with an empty literal. -/
theorem exists_cons_marker (division : Division) {body : Text} (nonempty : body ≠ [])
    (absent : '}' ∉ body) :
    ∃ next : Division, next.segments = .marker body :: division.segments := by
  obtain ⟨parts, last, closed, paired, opens⟩ := division
  exact ⟨⟨([], body) :: parts, last, List.forall_mem_cons.mpr ⟨⟨nonempty, absent⟩, closed⟩,
    List.forall_mem_cons.mpr ⟨AfterBraces.nil, paired⟩, opens⟩, rfl⟩

theorem render_of_segments {division : Division} {text : Text}
    (scanned : division.segments = Segment.scan text) : division.render = text := by
  rw [render_eq, scanned, Segment.render_scan]

/-- The scan of a text gives the segments of a division. -/
theorem exists_segments_eq_scan (text : Text) :
    ∃ division : Division, division.segments = Segment.scan text := by
  fun_induction Segment.scan text with
  | case1 => exact ⟨⟨[], [], by simp, by simp, AfterBraces.nil⟩, rfl⟩
  | case2 rest body tail found inductionHypothesis =>
      obtain ⟨division, scanned⟩ := inductionHypothesis
      obtain ⟨_, nonempty, absent⟩ := Segment.body?_eq_some_iff.mp found
      rw [← scanned]
      exact division.exists_cons_marker nonempty absent
  | case3 rest absent inductionHypothesis =>
      obtain ⟨division, scanned⟩ := inductionHypothesis
      rw [← scanned]
      apply division.exists_cons_literal
      intro _
      rw [render_of_segments scanned]
      exact Segment.body?_eq_none_iff.mp absent
  | case4 character rest other inductionHypothesis =>
      obtain ⟨division, scanned⟩ := inductionHypothesis
      rw [← scanned]
      exact division.exists_cons_literal character fun brace => absurd brace other

/-- A division is determined by its text. -/
theorem eq_of_render_eq {first second : Division} (same : first.render = second.render) :
    first = second := by
  have segments : first.segments = second.segments := by
    rw [← scan_render, ← scan_render, same]
  have gathered := congrArg gather segments
  rw [gather_segments, gather_segments, Prod.mk.injEq] at gathered
  exact Division.ext gathered.1 gathered.2

theorem existsUnique_render_eq (text : Text) : ∃! division : Division, division.render = text := by
  obtain ⟨division, scanned⟩ := exists_segments_eq_scan text
  have rendered := render_of_segments scanned
  exact ⟨division, rendered, fun other same => eq_of_render_eq (same.trans rendered.symm)⟩

end Division

namespace Template

/-- The template of a single marker with the same options. -/
def single (template : Template) (body : Text) : Template :=
  { template with text := '{' :: body ++ ['}'] }

theorem segments_eq_of_render_eq {template : Template} {division : Division}
    (rendered : division.render = template.text) : template.segments = division.segments := by
  rw [segments, ← rendered, division.scan_render]

theorem segments_single (template : Template) {body : Text} (nonempty : body ≠ [])
    (absent : '}' ∉ body) : (template.single body).segments = [.marker body] := by
  rw [segments, single, Segment.scan_marker nonempty absent, Segment.scan_nil]

/-- Each template has one division, and an expansion replaces its bodies one by one. -/
theorem existsUnique_division (template : Template) :
    (∃! division : Division, division.render = template.text) ∧
      ∀ division : Division, division.render = template.text →
        template.segments = division.segments ∧ template.bodies = division.bodies ∧
        ∀ (history : List Call) (bindings : Bindings Datum) (encode : Option Bool) 
          (result : CodeText),
          (template.substitute (template.cacheAfter history) bindings encode).outcome =
              .ok result →
            ∃ replacement : Text → CodeText,
              (∀ body ∈ division.bodies,
                ((template.single body).substitute .empty bindings encode).outcome =
                  .ok (replacement body)) ∧
              result = division.fill replacement := by
  refine ⟨Division.existsUnique_render_eq template.text, fun division rendered => ?_⟩
  have segments := segments_eq_of_render_eq rendered
  have bodies_eq : template.bodies = division.bodies := by
    rw [bodies, segments, division.bodies_segments]
  refine ⟨segments, bodies_eq, ?_⟩
  intro history bindings encode result success
  obtain ⟨values, prepared⟩ := exists_prepare_of_outcome success
  obtain ⟨replacement, each, rfl⟩ := (outcome_eq_ok_iff_of_prepare
    (template.cacheAfter_isSound history) prepared result).mp success
  refine ⟨replacement, ?_, by rw [segments, division.flatMap_segments]⟩
  intro body member
  obtain ⟨part, inside, rfl⟩ := List.mem_map.mp member
  obtain ⟨nonempty, absent⟩ := division.bodies_closed part inside
  have one := template.segments_single nonempty absent
  have prepared' : (template.single part.2).prepare bindings encode = .ok values := prepared
  rw [outcome_eq_ok_iff_of_prepare Cache.isSound_empty prepared']
  refine ⟨replacement, ?_, by simp [one, Segment.fill]⟩
  intro other found
  rw [bodies, one] at found
  obtain rfl := List.mem_singleton.mp found
  exact each part.2 (bodies_eq ▸ member)

/-- Braces pair up in a literal and stay in an inserted text. -/
theorem existsUnique_division_nested_braces :
    let template : Template :=
      { text := ['{', '}', '{', 'a', '}', '/', '{', '{', 'b', '}', '}'] }
    let division : Division :=
      ⟨[(['{', '}'], ['a']), (['/'], ['{', 'b'])], ['}'], by decide, by decide, by decide⟩
    let bindings := .ofList
      [(['a'], .text (CodeText.ofText ['{', 'c', '}'])), (['{', 'b'], .text [.character 'y'])]
    let result := CodeText.ofText ['{', '}', '{', 'c', '}', '/', 'y', '}']
    division.render = template.text ∧
      (template.substitute (template.cacheAfter []) bindings (some false)).outcome = .ok result ∧
      ∃ replacement : Text → CodeText,
        (∀ body ∈ division.bodies,
          ((template.single body).substitute .empty bindings (some false)).outcome =
            .ok (replacement body)) ∧
        result = division.fill replacement := by
  intro template division bindings result
  have rendered : division.render = template.text := by decide
  have success : (template.substitute (template.cacheAfter []) bindings (some false)).outcome =
      .ok result := by
    rw [template.outcome_substitute (template.cacheAfter_isSound []),
      segments_eq_of_render_eq rendered]
    rfl
  exact ⟨rendered, success,
    ((existsUnique_division template).2 division rendered).2.2 [] bindings _ _ success⟩

end Template

end UriExpansion
