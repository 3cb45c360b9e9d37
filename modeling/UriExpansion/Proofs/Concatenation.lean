import UriExpansion.Proofs.Division
import UriExpansion.Proofs.FirstOccurrence

namespace UriExpansion

/-- Each opening brace of a closed text has a closing brace somewhere after it. -/
abbrev IsClosed : Text → Prop :=
  AfterBraces fun after => '}' ∈ after

theorem AfterBraces.of_append {condition : Text → Prop} {first second : Text}
    (whole : AfterBraces condition (first ++ second)) : AfterBraces condition second := by
  rintro before after rfl
  exact whole (first ++ before) after (List.append_assoc ..).symm

namespace Segment

/-- The scan of a closed text does not depend on the text after it. -/
theorem scan_append_of_isClosed {first : Text} (closed : IsClosed first) (second : Text) :
    scan (first ++ second) = scan first ++ scan second := by
  fun_induction scan first with
  | case1 => rfl
  | case2 rest body tail found inductionHypothesis =>
      obtain ⟨rfl, nonempty, absent⟩ := body?_eq_some_iff.mp found
      have tailClosed : IsClosed tail := by
        have parts : '{' :: (body ++ '}' :: tail) = ('{' :: body ++ ['}']) ++ tail := by simp
        rw [parts] at closed
        exact closed.of_append
      have joined : '{' :: (body ++ '}' :: tail) ++ second =
          '{' :: body ++ '}' :: (tail ++ second) := by
        simp
      rw [joined, scan_marker nonempty absent, inductionHypothesis tailClosed, List.cons_append]
  | case3 rest absent inductionHypothesis =>
      obtain ⟨present, restClosed⟩ := AfterBraces.cons_iff.mp closed
      -- A closed brace that opens no marker is followed by its closing brace at once.
      have head : rest.head? = some '}' :=
        (body?_eq_none_iff.mp absent).resolve_right fun unclosed => unclosed (present rfl)
      have noBody : body? (rest ++ second) = none := by
        apply body?_eq_none_iff.mpr
        left
        rw [List.head?_append, head]
        rfl
      rw [List.cons_append, scan_brace noBody, inductionHypothesis restClosed, List.cons_append]
  | case4 character rest other inductionHypothesis =>
      obtain ⟨_, restClosed⟩ := AfterBraces.cons_iff.mp closed
      rw [List.cons_append, scan_literal other, inductionHypothesis restClosed, List.cons_append]

theorem bodies_append (first second : List Segment) :
    bodies (first ++ second) = bodies first ++ bodies second :=
  List.filterMap_append

end Segment

namespace Template

/-- A closed text is expanded apart from the text after it. -/
theorem outcome_append_of_isClosed (options : Options) {first : Text} (closed : IsClosed first)
    (second : Text) (history firstHistory secondHistory : List Call) :
    let whole : Template := { text := first ++ second, options }
    let start : Template := { text := first, options }
    let rest : Template := { text := second, options }
    (∀ (bindings : Bindings Datum) (encode : Option Bool),
      (whole.substitute (whole.cacheAfter history) bindings encode).outcome = (do
        let text ← (start.substitute (start.cacheAfter firstHistory) bindings encode).outcome
        let later ← (rest.substitute (rest.cacheAfter secondHistory) bindings encode).outcome
        pure (text ++ later))) ∧
    (whole.variableNames (whole.cacheAfter history)).outcome = (do
      let names ← (start.variableNames (start.cacheAfter firstHistory)).outcome
      let later ← (rest.variableNames (rest.cacheAfter secondHistory)).outcome
      pure (names ++ later.filter fun name => name ∉ names)) := by
  intro whole start rest
  have segments : whole.segments = start.segments ++ rest.segments :=
    Segment.scan_append_of_isClosed closed second
  have bodies : whole.bodies = start.bodies ++ rest.bodies := by
    rw [Template.bodies, segments, Segment.bodies_append]
    rfl
  constructor
  · intro bindings encode
    cases found : whole.fault? bindings encode with
    | some cause =>
        have startFaulty : start.fault? bindings encode = some cause := found
        rw [substitute_of_fault? found, substitute_of_fault? startFaulty]
        rfl
    | none =>
        obtain ⟨values, prepared⟩ := exists_prepare_iff.mpr found
        have startPrepared : start.prepare bindings encode = .ok values := prepared
        have restPrepared : rest.prepare bindings encode = .ok values := prepared
        rw [outcome_substitute_of_prepare (whole.cacheAfter_isSound history) prepared,
          outcome_substitute_of_prepare (start.cacheAfter_isSound firstHistory) startPrepared,
          outcome_substitute_of_prepare (rest.cacheAfter_isSound secondHistory) restPrepared,
          segments]
        exact Traversal.map_mapM_append _ (fun _ _ => List.flatten_append) _ _
  · rw [whole.outcome_variableNames (whole.cacheAfter_isSound history),
      start.outcome_variableNames (start.cacheAfter_isSound firstHistory),
      rest.outcome_variableNames (rest.cacheAfter_isSound secondHistory), bodies]
    have joined (names later : List (List Text)) :
        (names ++ later).flatten.eraseDups = names.flatten.eraseDups ++
          later.flatten.eraseDups.filter fun name => name ∉ names.flatten.eraseDups := by
      rw [List.flatten_append, eraseDups_append_eq]
    exact Traversal.map_mapM_append _ joined _ _

/-- Braces on both sides of the cut open no marker. -/
theorem outcome_append_of_isClosed_braces :
    let first : Text := ['{', '}', '{', 'a', ',', 'b', '}']
    let second : Text := ['}', '{', 'b', ',', 'c', '}', '{']
    let whole : Template := { text := first ++ second }
    let history : List Call := [.variableNames]
    let bindings := .ofList [(['a'], .text [.character '{']), (['b'], .text [.character 'x'])]
    IsClosed first ∧
      (whole.substitute (whole.cacheAfter history) bindings (some false)).outcome =
        .ok (CodeText.ofText ['{', '}', '{', '}', 'x', '{']) ∧
      (whole.variableNames (whole.cacheAfter history)).outcome = .ok [['a'], ['b'], ['c']] := by
  intro first second whole history bindings
  have closed : IsClosed first := by decide
  obtain ⟨texts, names⟩ := outcome_append_of_isClosed {} closed second history [] []
  exact ⟨closed, (texts bindings (some false)).trans (by decide +kernel),
    names.trans (by decide +kernel)⟩

end Template

end UriExpansion
