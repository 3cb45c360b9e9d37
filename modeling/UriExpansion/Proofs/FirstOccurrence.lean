import Mathlib.Data.List.Induction
import Mathlib.Data.List.Nodup
import UriExpansion.Bindings

namespace UriExpansion

section Lists

variable {A : Type} [BEq A] [LawfulBEq A]

/-- A further item is listed unless it occurs already. -/
theorem eraseDups_append_singleton (items : List A) (item : A) :
    (items ++ [item]).eraseDups =
      if item ∈ items then items.eraseDups else items.eraseDups ++ [item] := by
  rw [List.eraseDups_append]
  by_cases member : item ∈ items
  · simp [List.removeAll, member]
  · have single : [item].eraseDups = [item] := rfl
    simp [List.removeAll, member, single]

theorem eraseDups_of_nodup {items : List A} (distinct : items.Nodup) : items.eraseDups = items := by
  induction items using List.reverseRecOn with
  | nil => rfl
  | append_singleton items item inductionHypothesis =>
      obtain ⟨earlier, _, apart⟩ := List.nodup_append.mp distinct
      have absent : item ∉ items := fun member => apart item member item (by simp) rfl
      rw [eraseDups_append_singleton, if_neg absent, inductionHypothesis earlier]

theorem nodup_eraseDups (items : List A) : items.eraseDups.Nodup := by
  induction items using List.reverseRecOn with
  | nil => exact List.nodup_nil
  | append_singleton items item inductionHypothesis =>
      rw [eraseDups_append_singleton]
      split
      · exact inductionHypothesis
      · next absent =>
          rw [List.nodup_append]
          refine ⟨inductionHypothesis, List.nodup_singleton item, ?_⟩
          rintro earlier member last single rfl
          rw [List.mem_singleton.mp single, List.mem_eraseDups] at member
          exact absent member

/-- A filter does not change which occurrences are the first ones. -/
theorem eraseDups_filter (keep : A → Bool) (items : List A) :
    (items.filter keep).eraseDups = items.eraseDups.filter keep := by
  induction items using List.reverseRecOn with
  | nil => rfl
  | append_singleton items item inductionHypothesis =>
      rw [List.filter_append, eraseDups_append_singleton]
      cases kept : keep item with
      | true =>
          have single : [item].filter keep = [item] := by simp [kept]
          have same : item ∈ items.filter keep ↔ item ∈ items := by simp [kept]
          rw [single, eraseDups_append_singleton, inductionHypothesis]
          by_cases member : item ∈ items
          · rw [if_pos member, if_pos (same.mpr member)]
          · rw [if_neg member, if_neg (mt same.mp member), List.filter_append, single]
      | false =>
          have single : [item].filter keep = [] := by simp [kept]
          rw [single, List.append_nil, inductionHypothesis]
          split
          · rfl
          · rw [List.filter_append, single, List.append_nil]

/-- The second part of a list adds the items that are new. -/
theorem eraseDups_append_eq (first second : List A) :
    (first ++ second).eraseDups =
      first.eraseDups ++ second.eraseDups.filter fun item => item ∉ first.eraseDups := by
  have new : second.removeAll first = second.filter fun item => item ∉ first.eraseDups := by
    unfold List.removeAll
    apply List.filter_congr
    intro item _
    simp
  rw [List.eraseDups_append, new, eraseDups_filter]

/-- Repetitions may be removed from each list before the lists are joined. -/
theorem eraseDups_flatten_map (lists : List (List A)) :
    (lists.map List.eraseDups).flatten.eraseDups = lists.flatten.eraseDups := by
  induction lists with
  | nil => rfl
  | cons list rest inductionHypothesis =>
      rw [List.map_cons, List.flatten_cons, List.flatten_cons, eraseDups_append_eq,
        eraseDups_append_eq, inductionHypothesis, eraseDups_of_nodup (nodup_eraseDups list)]

/-- A new item at the end stands behind all items before it. -/
theorem idxOf_append_singleton_lt_iff {items : List A} {item first second : A}
    (absent : item ∉ items) (firstMember : first ∈ items ++ [item])
    (secondMember : second ∈ items ++ [item]) :
    (items ++ [item]).idxOf first < (items ++ [item]).idxOf second ↔
      first ∈ items ∧ (second ∈ items → items.idxOf first < items.idxOf second) := by
  have last : (items ++ [item]).idxOf item = items.length := by
    rw [List.idxOf_append_of_notMem absent, List.idxOf_cons_self, Nat.add_zero]
  rcases List.mem_append.mp firstMember with firstEarlier | single
  · have bound := List.idxOf_lt_length_of_mem firstEarlier
    rw [List.idxOf_append_of_mem firstEarlier]
    rcases List.mem_append.mp secondMember with secondEarlier | single
    · rw [List.idxOf_append_of_mem secondEarlier]
      simp [firstEarlier, secondEarlier]
    · obtain rfl := List.mem_singleton.mp single
      rw [last]
      simp [firstEarlier, absent, bound]
  · obtain rfl := List.mem_singleton.mp single
    have bound := List.idxOf_lt_length_of_mem secondMember
    rw [List.length_append, List.length_singleton] at bound
    rw [last]
    simp only [absent, false_and, iff_false]
    omega

/-- Items keep the order of their first occurrences. -/
theorem idxOf_eraseDups_lt_iff {items : List A} {first second : A} (firstMember : first ∈ items)
    (secondMember : second ∈ items) :
    items.eraseDups.idxOf first < items.eraseDups.idxOf second ↔
      items.idxOf first < items.idxOf second := by
  induction items using List.reverseRecOn with
  | nil => exact absurd firstMember List.not_mem_nil
  | append_singleton items item inductionHypothesis =>
      by_cases present : item ∈ items
      · have known {other : A} (member : other ∈ items ++ [item]) : other ∈ items := by
          rcases List.mem_append.mp member with earlier | last
          · exact earlier
          · exact (List.mem_singleton.mp last) ▸ present
        rw [eraseDups_append_singleton, if_pos present,
          List.idxOf_append_of_mem (known firstMember),
          List.idxOf_append_of_mem (known secondMember)]
        exact inductionHypothesis (known firstMember) (known secondMember)
      · have absent : item ∉ items.eraseDups := mt List.mem_eraseDups.mp present
        have listed {other : A} (member : other ∈ items ++ [item]) :
            other ∈ items.eraseDups ++ [item] := by
          simpa [List.mem_eraseDups] using member
        rw [eraseDups_append_singleton, if_neg present,
          idxOf_append_singleton_lt_iff absent (listed firstMember) (listed secondMember),
          idxOf_append_singleton_lt_iff present firstMember secondMember, List.mem_eraseDups,
          List.mem_eraseDups]
        exact and_congr_right fun earlier =>
          imp_congr_right fun later => inductionHypothesis earlier later

/-- The first occurrences of an initial part stand first. -/
theorem eraseDups_prefix {first second : List A} (initial : first <+: second) :
    first.eraseDups <+: second.eraseDups := by
  obtain ⟨rest, rfl⟩ := initial
  rw [eraseDups_append_eq]
  exact List.prefix_append _ _

end Lists

/-- An update adds the new names of its entries in order of first occurrence. -/
theorem Bindings.names_update {A : Type} (bindings : Bindings A) (entries : List (Text × A)) :
    (bindings.update entries).names = (bindings.names ++ entries.map Prod.fst).eraseDups := by
  induction entries using List.reverseRecOn with
  | nil =>
      rw [List.map_nil, List.append_nil]
      exact (eraseDups_of_nodup bindings.distinct).symm
  | append_singleton entries entry inductionHypothesis =>
      have step : bindings.update (entries ++ [entry]) =
          (bindings.update entries).insert entry.1 entry.2 := by
        rw [update_append]
        rfl
      rw [step, names_insert, inductionHypothesis, List.map_append, ← List.append_assoc,
        List.map_singleton, eraseDups_append_singleton]
      simp only [List.mem_eraseDups]

theorem Bindings.names_ofList {A : Type} (entries : List (Text × A)) :
    (ofList entries).names = (entries.map Prod.fst).eraseDups := by
  rw [ofList, names_update, names_empty, List.nil_append]

end UriExpansion
