import Mathlib.Data.List.Basic
import UriExpansion.Proofs.Splitting
import UriExpansion.Template.Basic

namespace UriExpansion

namespace CodeText

/-- A separator that is not empty stands between the parts of a join. -/
theorem join_cons_cons_ne_nil {separator : CodeText} (nonempty : separator ≠ [])
    (part next : CodeText) (parts : List CodeText) :
    Text.join separator (part :: next :: parts) ≠ [] := by
  rw [Text.join_cons_cons]
  simp [nonempty]

/-- A separator before joined parts stands before each of them. -/
theorem append_join_eq_flatMap (separator part : CodeText) (parts : List CodeText) :
    separator ++ Text.join separator (part :: parts) =
      (part :: parts).flatMap (separator ++ ·) := by
  induction parts generalizing part with
  | nil => simp
  | cons next parts inductionHypothesis =>
      rw [Text.join_cons_cons, List.flatMap_cons, ← inductionHypothesis]
      simp only [List.append_assoc]

/-- A separator after joined parts stands after each of them. -/
theorem join_append_eq_flatMap (separator part : CodeText) (parts : List CodeText) :
    Text.join separator (part :: parts) ++ separator =
      (part :: parts).flatMap (· ++ separator) := by
  induction parts generalizing part with
  | nil => simp
  | cons next parts inductionHypothesis =>
      rw [Text.join_cons_cons, List.flatMap_cons, ← inductionHypothesis]
      simp only [List.append_assoc]

end CodeText

namespace Value

theorem joined_of_isEmpty {value : Value} (empty : value.isEmpty = true) (separator : CodeText) :
    value.joined separator = [] := by
  cases value with
  | scalar text => exact List.isEmpty_iff.mp empty
  | sequence items =>
      obtain rfl : items = [] := List.isEmpty_iff.mp empty
      rfl

/-- The joined text hides whether one sequence is empty, and only that one. -/
theorem joined_ne_nil_iff {separator : CodeText} (nonempty : separator ≠ []) {value : Value} :
    value.joined separator ≠ [] ↔ value.isEmpty = false ∧ value ≠ .sequence [[]] := by
  cases value with
  | scalar text => simp [joined, isEmpty]
  | sequence items =>
      rcases items with _ | ⟨item, _ | ⟨next, items⟩⟩
      · simp [joined, isEmpty]
      · simp [joined, isEmpty]
      · have joins := CodeText.join_cons_cons_ne_nil nonempty item next items
        simp [joined, isEmpty, joins]

end Value

namespace Operator

/-- The argument stands before every value that is not empty. -/
def placedBefore (argument : CodeText) (value : Value) : CodeText :=
  if value.isEmpty then [] else argument ++ value.joined argument

/-- The argument stands after every value that is not empty. -/
def placedAfter (argument : CodeText) (value : Value) : CodeText :=
  if value.isEmpty then [] else value.joined argument ++ argument

variable {argument : CodeText} {value : Value}

theorem prepended_ne_nil_iff : prepended argument value ≠ [] ↔ value.joined argument ≠ [] := by
  by_cases empty : value.joined argument = [] <;> simp [prepended, empty]

theorem appended_ne_nil_iff : appended argument value ≠ [] ↔ value.joined argument ≠ [] := by
  by_cases empty : value.joined argument = [] <;> simp [appended, empty]

/-- The two tests for emptiness differ only beside the sequence of the empty text. -/
theorem placed_eq_iff (place : CodeText → CodeText) (alone : place [] = argument) :
    (if (value.joined argument).isEmpty then [] else place (value.joined argument)) =
        (if value.isEmpty then [] else place (value.joined argument)) ↔
      argument = [] ∨ value ≠ .sequence [[]] := by
  by_cases hidden : value = .sequence [[]]
  · subst hidden
    simp [Value.joined, Value.isEmpty, alone, eq_comm]
  · refine iff_of_true ?_ (.inr hidden)
    cases empty : value.isEmpty with
    | true => simp [Value.joined_of_isEmpty empty]
    | false =>
        by_cases noArgument : argument = []
        · subst noArgument
          by_cases nothing : value.joined [] = [] <;> simp [nothing, alone]
        · simp [(Value.joined_ne_nil_iff noArgument).mpr ⟨empty, hidden⟩]

theorem prepended_eq_iff :
    prepended argument value = placedBefore argument value ↔
      argument = [] ∨ value ≠ .sequence [[]] :=
  placed_eq_iff (argument ++ ·) (List.append_nil argument)

theorem appended_eq_iff :
    appended argument value = placedAfter argument value ↔
      argument = [] ∨ value ≠ .sequence [[]] :=
  placed_eq_iff (· ++ argument) (List.nil_append argument)

theorem placedBefore_sequence {items : List CodeText} (nonempty : items ≠ [])
    (argument : CodeText) :
    placedBefore argument (.sequence items) = items.flatMap (argument ++ ·) := by
  obtain ⟨item, rest, rfl⟩ := List.exists_cons_of_ne_nil nonempty
  exact CodeText.append_join_eq_flatMap argument item rest

theorem placedAfter_sequence {items : List CodeText} (nonempty : items ≠ []) (argument : CodeText) :
    placedAfter argument (.sequence items) = items.flatMap (· ++ argument) := by
  obtain ⟨item, rest, rfl⟩ := List.exists_cons_of_ne_nil nonempty
  exact CodeText.join_append_eq_flatMap argument item rest

/-- Beside a single variable an affix differs from the option at one value. -/
theorem joined_ne_nil_iff_opt_iff {bound : Bindings Value} {name : Text} (nonempty : argument ≠ [])
    (single : bound.entries = [(name, value)]) :
    (value.joined argument ≠ [] ↔ opt.apply bound argument = some argument) ↔
      value ≠ .sequence [[]] := by
  have shown : opt.apply bound argument = some argument ↔ value.isEmpty = false := by
    cases empty : value.isEmpty <;> simp [apply_eq, anyPresent, single, empty, nonempty.symm]
  rw [shown, Value.joined_ne_nil_iff nonempty]
  constructor
  · rintro agree rfl
    exact (agree.mpr rfl).2 rfl
  · intro other
    exact and_iff_left other

/-- An affix obeys the rule except beside the sequence of the empty text. -/
theorem apply_affixes_eq_iff (bound : Bindings Value) (value : Value)
    (first : firstValue? bound = some value) (argument : CodeText) :
    (prepend.apply bound argument = some (placedBefore argument value) ↔
      argument = [] ∨ value ≠ .sequence [[]]) ∧
    (append.apply bound argument = some (placedAfter argument value) ↔
      argument = [] ∨ value ≠ .sequence [[]]) ∧
    (∀ items, items ≠ [] → value = .sequence items →
      (prepend.apply bound argument = some (items.flatMap (argument ++ ·)) ↔
        argument = [] ∨ items ≠ [[]]) ∧
      (append.apply bound argument = some (items.flatMap (· ++ argument)) ↔
        argument = [] ∨ items ≠ [[]])) ∧
    (∀ name, argument ≠ [] → bound.entries = [(name, value)] →
      ((prepend.apply bound argument ≠ some [] ↔ opt.apply bound argument = some argument) ↔
        value ≠ .sequence [[]]) ∧
      ((append.apply bound argument ≠ some [] ↔ opt.apply bound argument = some argument) ↔
        value ≠ .sequence [[]])) ∧
    (value = .sequence [[]] →
      prepend.apply bound argument = some [] ∧ append.apply bound argument = some []) := by
  have before : prepend.apply bound argument = some (prepended argument value) := by
    simp only [apply_eq, first, Option.map_some]
  have after : append.apply bound argument = some (appended argument value) := by
    simp only [apply_eq, first, Option.map_some]
  simp only [before, after, Option.some.injEq, ne_eq]
  refine ⟨prepended_eq_iff, appended_eq_iff, ?_, ?_, ?_⟩
  · rintro items nonempty rfl
    rw [← placedBefore_sequence nonempty, ← placedAfter_sequence nonempty, prepended_eq_iff,
      appended_eq_iff]
    simp
  · intro name nonempty single
    have agree := joined_ne_nil_iff_opt_iff nonempty single
    exact ⟨by rw [← ne_eq, prepended_ne_nil_iff, agree], by
      rw [← ne_eq, appended_ne_nil_iff, agree]⟩
  · rintro rfl
    exact ⟨rfl, rfl⟩

/-- An empty item beside another one is shown. -/
theorem apply_affixes_eq_iff_empty_items :
    let slash : CodeText := [.character '/']
    let item : CodeText := [.character 'a']
    let shown : Value := .sequence [[], item]
    let hidden : Value := .sequence [[]]
    let showing : Bindings Value := .ofList [(['x'], shown)]
    let covering : Bindings Value := .ofList [(['x'], hidden)]
    firstValue? showing = some shown ∧
      prepend.apply showing slash = some (placedBefore slash shown) ∧
      append.apply showing slash = some (placedAfter slash shown) ∧
      prepend.apply showing slash = some (slash ++ slash ++ item) ∧
      append.apply showing slash = some (slash ++ item ++ slash) ∧
      firstValue? covering = some hidden ∧ covering.entries = [(['x'], hidden)] ∧
      ¬ (prepend.apply covering slash ≠ some [] ↔ opt.apply covering slash = some slash) ∧
      ¬ (append.apply covering slash ≠ some [] ↔ opt.apply covering slash = some slash) ∧
      prepend.apply covering slash = some [] ∧ append.apply covering slash = some [] := by
  intro slash item shown hidden showing covering
  have nonempty : slash ≠ [] := by decide
  obtain ⟨before, after, items, _, _⟩ := apply_affixes_eq_iff showing shown rfl slash
  obtain ⟨_, _, _, optional, nothing⟩ := apply_affixes_eq_iff covering hidden rfl slash
  obtain ⟨beforeItems, afterItems⟩ := items [[], item] (by decide) rfl
  obtain ⟨beforeOpt, afterOpt⟩ := optional ['x'] nonempty rfl
  have same : hidden = .sequence [[]] := rfl
  exact ⟨rfl, before.mpr (.inr (by decide)), after.mpr (.inr (by decide)),
    beforeItems.mpr (.inr (by decide)), afterItems.mpr (.inr (by decide)), rfl, rfl,
    fun agree => beforeOpt.mp agree same, fun agree => afterOpt.mp agree same, nothing same⟩

/-- The list of one empty text is expanded to nothing against the rule. -/
theorem apply_prepend_ne_placedBefore :
    let template : Template := { text := "\x7b-prefix|/|a\x7d".toList }
    let bound : Bindings Value := .ofList [(['a'], .sequence [[]])]
    let slash : CodeText := [.character '/']
    (template.substitute .empty (.ofList [(['a'], .list [.text []])]) none).outcome = .ok [] ∧
      prepend.apply bound slash = some [] ∧ append.apply bound slash = some [] ∧
      opt.apply bound slash = some slash ∧ placedBefore slash (.sequence [[]]) = slash ∧
      ¬ ∀ (argument : CodeText) (value : Value),
        prepended argument value = placedBefore argument value := by
  intro template bound slash
  refine ⟨by decide +kernel, rfl, rfl, rfl, rfl, fun rule => ?_⟩
  exact absurd (rule slash (.sequence [[]])) (by decide)

end Operator

end UriExpansion
