import UriExpansion.Text.Basic

namespace UriExpansion.Text

variable {A : Type} {character : A}

section

variable [DecidableEq A] {mark : A}

/-- Both parts of a cut text are made of its characters. -/
theorem mem_of_mem_cutAt_fst {text : List A} (member : character ∈ (cutAt mark text).1) :
    character ∈ text :=
  (List.takeWhile_sublist _).subset member

theorem mem_of_mem_cutAt_snd {text : List A} (member : character ∈ (cutAt mark text).2) :
    character ∈ text :=
  (List.dropWhile_sublist _).subset (List.mem_of_mem_drop member)

end

theorem mem_join_of_mem {separator part : List A} {parts : List (List A)} (listed : part ∈ parts)
    (member : character ∈ part) : character ∈ join separator parts := by
  induction parts with
  | nil => exact absurd listed List.not_mem_nil
  | cons first rest inductionHypothesis =>
      cases rest with
      | nil =>
          obtain rfl := List.mem_singleton.mp listed
          rwa [join_singleton]
      | cons next rest =>
          rw [join_cons_cons, List.mem_append, List.mem_append]
          rcases List.mem_cons.mp listed with rfl | later
          · exact .inl (.inl member)
          · exact .inr (inductionHypothesis later)

theorem join_ne_nil_of_mem {separator part : List A} {parts : List (List A)} (listed : part ∈ parts)
    (nonempty : part ≠ []) : join separator parts ≠ [] := by
  obtain ⟨first, rest, rfl⟩ := List.exists_cons_of_ne_nil nonempty
  exact List.ne_nil_of_mem (mem_join_of_mem listed List.mem_cons_self)

/-- A join of texts that are not empty is empty only without texts. -/
theorem join_map_eq_nil_iff {B : Type} {write : B → List A}
    (nonempty : ∀ item, write item ≠ []) (separator : List A) (items : List B) :
    join separator (items.map write) = [] ↔ items = [] := by
  cases items with
  | nil => exact iff_of_true rfl rfl
  | cons item rest =>
      exact iff_of_false (join_ne_nil_of_mem List.mem_cons_self (nonempty item))
        (List.cons_ne_nil item rest)

/-- A join consists of the characters of its separator and its parts. -/
theorem mem_join {separator : List A} {parts : List (List A)}
    (member : character ∈ join separator parts) :
    character ∈ separator ∨ ∃ part ∈ parts, character ∈ part := by
  induction parts with
  | nil => exact absurd member List.not_mem_nil
  | cons first rest inductionHypothesis =>
      cases rest with
      | nil =>
          rw [join_singleton] at member
          exact .inr ⟨first, List.mem_cons_self, member⟩
      | cons next rest =>
          rw [join_cons_cons, List.mem_append, List.mem_append] at member
          rcases member with (inFirst | inSeparator) | later
          · exact .inr ⟨first, List.mem_cons_self, inFirst⟩
          · exact .inl inSeparator
          · refine (inductionHypothesis later).imp_right ?_
            rintro ⟨part, listed, inside⟩
            exact ⟨part, List.mem_cons_of_mem first listed, inside⟩

theorem not_mem_join {separator : List A} {parts : List (List A)} (between : character ∉ separator)
    (absent : ∀ part ∈ parts, character ∉ part) : character ∉ join separator parts := by
  intro member
  rcases mem_join member with inSeparator | ⟨part, listed, inside⟩
  · exact between inSeparator
  · exact absent part listed inside

section

variable [DecidableEq A] {mark : A}

/-- The parts of a split text do not hold the mark. -/
theorem not_mem_of_mem_splitOn {text part : List A} (listed : part ∈ text.splitOn mark) :
    mark ∉ part := by
  induction text generalizing part with
  | nil =>
      obtain rfl := List.mem_singleton.mp (show part ∈ [[]] from listed)
      exact List.not_mem_nil
  | cons first text inductionHypothesis =>
      rw [List.splitOn_cons_eq_if_modifyHead] at listed
      by_cases same : first = mark
      · rw [if_pos (beq_iff_eq.mpr same)] at listed
        rcases List.mem_cons.mp listed with rfl | later
        · exact List.not_mem_nil
        · exact inductionHypothesis later
      · rw [if_neg (mt beq_iff_eq.mp same)] at listed
        obtain ⟨head, rest, parts⟩ := List.exists_cons_of_ne_nil (List.splitOn_ne_nil mark text)
        rw [parts, List.modifyHead_cons] at listed
        rcases List.mem_cons.mp listed with rfl | later
        · -- The first part grows by a character that is not the mark.
          have absent : mark ∉ head := inductionHypothesis (parts ▸ List.mem_cons_self)
          rw [List.mem_cons, not_or]
          exact ⟨fun clash => same clash.symm, absent⟩
        · exact inductionHypothesis (parts ▸ List.mem_cons_of_mem head later)

/-- The parts of a split text are made of its characters. -/
theorem mem_of_mem_splitOn {text part : List A} (listed : part ∈ text.splitOn mark)
    (member : character ∈ part) : character ∈ text := by
  have whole : join [mark] (text.splitOn mark) = text := List.intercalate_splitOn mark
  rw [← whole]
  exact mem_join_of_mem listed member

end

end UriExpansion.Text
