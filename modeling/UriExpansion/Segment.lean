import UriExpansion.Text.Basic

namespace UriExpansion

/-- A template is a list of literal characters and of markers with their bodies. -/
inductive Segment where
  | literal (character : Char)
  | marker (body : Text)
  deriving DecidableEq

namespace Segment

/-- A body extends to the next closing brace and is not empty. -/
def body? (text : Text) : Option (Text × Text) :=
  if '}' ∈ text ∧ (Text.cutAt '}' text).1 ≠ [] then some (Text.cutAt '}' text) else none

/-- A body and the text after it are parts of the scanned text. -/
theorem body?_eq_some_iff {text body rest : Text} :
    body? text = some (body, rest) ↔ text = body ++ '}' :: rest ∧ body ≠ [] ∧ '}' ∉ body := by
  constructor
  · intro found
    simp only [body?, Option.ite_none_right_eq_some, Option.some.injEq] at found
    obtain ⟨⟨present, nonempty⟩, parts⟩ := found
    have whole := Text.cutAt_parts present
    have absent := Text.not_mem_cutAt_fst '}' text
    rw [parts] at whole nonempty absent
    exact ⟨whole.symm, nonempty, absent⟩
  · rintro ⟨rfl, nonempty, absent⟩
    simp [body?, Text.cutAt_append absent, nonempty]

theorem length_of_body? {text body rest : Text} (found : body? text = some (body, rest)) :
    rest.length < text.length := by
  rw [(body?_eq_some_iff.mp found).1]
  simp only [List.length_append, List.length_cons]
  omega

/-- A brace that opens no marker is literal. -/
def scan (text : Text) : List Segment :=
  match text with
  | [] => []
  | character :: rest =>
      if character = '{' then
        match _found : body? rest with
        | some (body, tail) => .marker body :: scan tail
        | none => .literal character :: scan rest
      else .literal character :: scan rest
  termination_by text.length
  decreasing_by
    · exact Nat.lt_succ_of_lt (length_of_body? _found)
    · simp
    · simp

/-- A segment is written as its character or as its body in braces. -/
def render : Segment → Text
  | .literal character => [character]
  | .marker body => '{' :: body ++ ['}']

@[simp] theorem scan_nil : scan [] = [] := by
  rw [scan]

theorem scan_literal {character : Char} (other : character ≠ '{') (rest : Text) :
    scan (character :: rest) = .literal character :: scan rest := by
  rw [scan, if_neg other]

theorem scan_marker {body : Text} (nonempty : body ≠ []) (closed : '}' ∉ body) (rest : Text) :
    scan ('{' :: body ++ '}' :: rest) = .marker body :: scan rest := by
  have found : body? (body ++ '}' :: rest) = some (body, rest) :=
    body?_eq_some_iff.mpr ⟨rfl, nonempty, closed⟩
  rw [List.cons_append, scan, if_pos rfl]
  split
  · next other tail read =>
      rw [found, Option.some.injEq, Prod.mk.injEq] at read
      rw [← read.1, ← read.2]
  · next absent => exact absurd (found.symm.trans absent) (by simp)

theorem scan_brace {rest : Text} (absent : body? rest = none) :
    scan ('{' :: rest) = .literal '{' :: scan rest := by
  rw [scan, if_pos rfl]
  split
  · next read => rw [absent] at read; exact absurd read (by simp)
  · rfl

/-- The written segments give the template back. -/
theorem render_scan (text : Text) : (scan text).flatMap render = text := by
  fun_induction scan text with
  | case1 => rfl
  | case2 rest body tail found inductionHypothesis =>
      rw [List.flatMap_cons, inductionHypothesis, (body?_eq_some_iff.mp found).1]
      simp [render]
  | case3 rest absent inductionHypothesis => rw [List.flatMap_cons, inductionHypothesis]; rfl
  | case4 character rest other inductionHypothesis =>
      rw [List.flatMap_cons, inductionHypothesis]; rfl

/-- The body of a marker. -/
def markerBody? : Segment → Option Text
  | .literal _ => none
  | .marker body => some body

/-- The bodies of the markers stand in template order. -/
def bodies (segments : List Segment) : List Text :=
  segments.filterMap markerBody?

end Segment

end UriExpansion
