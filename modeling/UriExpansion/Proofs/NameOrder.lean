import UriExpansion.Operator

namespace UriExpansion

namespace Text

/-- A text precedes another one where they first differ or if it ends first. -/
def Precedes : Text → Text → Prop :=
  List.Lex fun first second => first.toNat < second.toNat

theorem Precedes.trans {first second third : Text} (below : first.Precedes second)
    (above : second.Precedes third) : first.Precedes third :=
  List.lex_trans Nat.lt_trans below above

theorem Precedes.asymm {first second : Text} (below : first.Precedes second) :
    ¬ second.Precedes first :=
  List.lex_asymm Nat.lt_asymm below

/-- Two texts are equal if neither precedes the other. -/
theorem eq_of_not_precedes {first second : Text} (notBelow : ¬ first.Precedes second)
    (notAbove : ¬ second.Precedes first) : first = second := by
  refine List.lex_trichotomous (fun character other below above => ?_) notAbove notBelow
  exact Char.toNat_inj.mp (by omega)

theorem ordered_iff {first second : Text} :
    ordered first second = true ↔ first = second ∨ first.Precedes second := by
  induction first generalizing second with
  | nil =>
      cases second with
      | nil => simp [ordered]
      | cons other others => exact iff_of_true rfl (.inr .nil)
  | cons head rest inductionHypothesis =>
      cases second with
      | nil => simp [ordered, Precedes, List.not_lex_nil]
      | cons other others =>
          simp only [ordered, Precedes, List.cons_lex_cons_iff, Bool.or_eq_true, Bool.and_eq_true,
            decide_eq_true_eq, beq_iff_eq, inductionHypothesis, List.cons.injEq]
          rw [and_or_left, or_left_comm]

end Text

namespace Operator

theorem perm_sortedByName (bound : Bindings Value) : (sortedByName bound).Perm bound.entries :=
  List.mergeSort_perm ..

/-- Each sorted name precedes the later ones, since no name is bound twice. -/
theorem pairwise_sortedByName (bound : Bindings Value) :
    (sortedByName bound).Pairwise fun first second => first.1.Precedes second.1 := by
  have increasing : (sortedByName bound).Pairwise fun first second =>
      Text.ordered first.1 second.1 = true := by
    apply List.pairwise_mergeSort
    · intro first second third below above
      rw [Text.ordered_iff] at below above ⊢
      rcases below with same | below
      · exact same ▸ above
      · rcases above with same | above
        · exact .inr (same ▸ below)
        · exact .inr (below.trans above)
    · intro first second
      rw [Bool.or_eq_true, Text.ordered_iff, Text.ordered_iff]
      by_cases below : first.1.Precedes second.1
      · exact .inl (.inr below)
      · by_cases above : second.1.Precedes first.1
        · exact .inr (.inr above)
        · exact .inl (.inl (Text.eq_of_not_precedes below above))
  have distinct : ((sortedByName bound).map Prod.fst).Nodup :=
    ((perm_sortedByName bound).map Prod.fst).nodup_iff.mpr bound.distinct
  refine (increasing.and (List.pairwise_map.mp distinct)).imp ?_
  rintro first second ⟨below, other⟩
  exact (Text.ordered_iff.mp below).resolve_left other

/-- The names decide the order, so changed values are sorted like the values. -/
theorem sortedByName_map (change : Value → Value) (bound : Bindings Value) :
    sortedByName (bound.map fun _ => change) =
      (sortedByName bound).map fun entry => (entry.1, change entry.2) := by
  unfold sortedByName Bindings.map
  symm
  apply List.map_mergeSort
  intro first _ second _
  rfl

/-- Permuted variables are sorted to the same list. -/
theorem sortedByName_eq_of_perm {first second : Bindings Value}
    (permuted : first.entries.Perm second.entries) : sortedByName first = sortedByName second := by
  apply List.Perm.eq_of_pairwise _ (pairwise_sortedByName first) (pairwise_sortedByName second)
  · exact (perm_sortedByName first).trans (permuted.trans (perm_sortedByName second).symm)
  · intro entry other _ _ below above
    exact absurd above below.asymm

end Operator

end UriExpansion
