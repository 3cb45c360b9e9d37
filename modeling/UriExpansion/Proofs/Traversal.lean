import Mathlib.Data.List.Forall2
import UriExpansion.Text.Basic

namespace UriExpansion

variable {A B C E : Type}

/-- The failure of an outcome, if it is one. -/
def error? : Except E A → Option E
  | .ok _ => none
  | .error failure => some failure

@[simp] theorem error?_ok (value : A) : error? (.ok value : Except E A) = none := rfl

@[simp] theorem error?_error (failure : E) :
    error? (.error failure : Except E A) = some failure := rfl

@[simp] theorem error?_map (change : A → B) (outcome : Except E A) :
    error? (outcome.map change) = error? outcome := by
  cases outcome <;> rfl

theorem error?_eq_some_iff {outcome : Except E A} {failure : E} :
    error? outcome = some failure ↔ outcome = .error failure := by
  cases outcome <;> simp

theorem error?_eq_none_iff {outcome : Except E A} :
    error? outcome = none ↔ ∃ value, outcome = .ok value := by
  cases outcome <;> simp

/-- Outcomes with one image fail alike or have values with one image. -/
theorem map_eq_map_iff (change : A → B) {outcome other : Except E A} :
    outcome.map change = other.map change ↔
      (∃ failure, outcome = .error failure ∧ other = .error failure) ∨
        ∃ first second, outcome = .ok first ∧ other = .ok second ∧
          change first = change second := by
  constructor
  · intro same
    cases outcome with
    | error failure =>
        cases other with
        | error otherFailure =>
            exact .inl ⟨failure, rfl, congrArg Except.error (Except.error.inj same).symm⟩
        | ok second => cases same
    | ok first =>
        cases other with
        | error otherFailure => cases same
        | ok second => exact .inr ⟨first, second, rfl, rfl, Except.ok.inj same⟩
  · rintro (⟨failure, rfl, rfl⟩ | ⟨first, second, rfl, rfl, same⟩)
    · rfl
    · exact congrArg Except.ok same

namespace Traversal

variable (visit : A → Except E B)

/-- A traversal fails with the first failure of its visits. -/
theorem error?_mapM (items : List A) :
    error? (items.mapM visit) = items.findSome? fun item => error? (visit item) := by
  induction items with
  | nil => rfl
  | cons item rest inductionHypothesis =>
      rw [List.mapM_cons, List.findSome?_cons, ← inductionHypothesis]
      cases visit item with
      | error failure => rfl
      | ok value => cases rest.mapM visit <;> rfl

/-- A traversal fails at its first item that fails a test. -/
theorem error?_mapM_of_forall {fails : A → Bool} {failure : A → E}
    (tested : ∀ item, error? (visit item) = if fails item then some (failure item) else none)
    (items : List A) : error? (items.mapM visit) = (items.find? fails).map failure := by
  rw [error?_mapM]
  induction items with
  | nil => rfl
  | cons item rest inductionHypothesis =>
      rw [List.findSome?_cons, List.find?_cons, tested, inductionHypothesis]
      cases fails item <;> rfl

/-- A traversal whose visits succeed lists their results. -/
theorem mapM_of_forall_ok {items : List A} {value : A → B}
    (succeeds : ∀ item ∈ items, visit item = .ok (value item)) :
    items.mapM visit = .ok (items.map value) := by
  induction items with
  | nil => rfl
  | cons item rest inductionHypothesis =>
      have later := inductionHypothesis fun other member =>
        succeeds other (List.mem_cons_of_mem item member)
      rw [List.mapM_cons, succeeds item List.mem_cons_self, later]
      rfl

/-- A traversal succeeds only if each of its visits does. -/
theorem forall_ok_of_mapM {items : List A} {results : List B}
    (success : items.mapM visit = .ok results) :
    ∀ item ∈ items, ∃ value ∈ results, visit item = .ok value := by
  induction items generalizing results with
  | nil =>
      intro item member
      exact absurd member List.not_mem_nil
  | cons first rest inductionHypothesis =>
      rw [List.mapM_cons] at success
      cases visited : visit first with
      | error failure =>
          rw [visited] at success
          exact absurd success (by simp [bind, Except.bind])
      | ok value =>
          cases later : rest.mapM visit with
          | error failure =>
              rw [visited, later] at success
              exact absurd success (by simp [bind, Except.bind])
          | ok values =>
              rw [visited, later] at success
              obtain rfl : value :: values = results := Except.ok.inj success
              intro item member
              rcases List.mem_cons.mp member with rfl | inside
              · exact ⟨value, List.mem_cons_self, visited⟩
              · obtain ⟨other, listed, found⟩ := inductionHypothesis later item inside
                exact ⟨other, List.mem_cons_of_mem value listed, found⟩

/-- A traversal relates its items and its results one by one. -/
theorem forall₂_of_mapM {items : List A} {results : List B}
    (success : items.mapM visit = .ok results) :
    List.Forall₂ (fun item result => visit item = .ok result) items results := by
  induction items generalizing results with
  | nil =>
      obtain rfl : [] = results := Except.ok.inj success
      exact .nil
  | cons item rest inductionHypothesis =>
      rw [List.mapM_cons] at success
      cases visited : visit item with
      | error failure =>
          rw [visited] at success
          cases success
      | ok value =>
          cases later : rest.mapM visit with
          | error failure =>
              rw [visited, later] at success
              cases success
          | ok values =>
              rw [visited, later] at success
              obtain rfl : value :: values = results := Except.ok.inj success
              exact .cons visited (inductionHypothesis later)

/-- A change of all results is a change of each visit. -/
theorem map_mapM (change : B → C) (items : List A) :
    (items.mapM visit).map (List.map change) = items.mapM fun item => (visit item).map change := by
  induction items with
  | nil => rfl
  | cons item rest inductionHypothesis =>
      rw [List.mapM_cons, List.mapM_cons, ← inductionHypothesis]
      cases visit item with
      | error failure => rfl
      | ok value => cases rest.mapM visit <;> rfl

/-- The first list of a joined traversal fails first. -/
theorem map_mapM_append {join : List B → C} {combine : C → C → C}
    (joined : ∀ first second, join (first ++ second) = combine (join first) (join second))
    (first second : List A) :
    ((first ++ second).mapM visit).map join = (do
      let start ← (first.mapM visit).map join
      let rest ← (second.mapM visit).map join
      pure (combine start rest)) := by
  rw [List.mapM_append]
  cases first.mapM visit with
  | error failure => rfl
  | ok start =>
      cases second.mapM visit with
      | error failure => rfl
      | ok rest => exact congrArg Except.ok (joined start rest)

end Traversal

end UriExpansion
