namespace UriExpansion

/-- A text is a list of Unicode scalar values. -/
abbrev Text := List Char

namespace Text

section Parts

variable {A : Type} [DecidableEq A]

/-- The parts before and after the first mark. -/
def cutAt (mark : A) (text : List A) : List A × List A :=
  (text.takeWhile (· != mark), (text.dropWhile (· != mark)).drop 1)

@[simp] theorem cutAt_nil (mark : A) : cutAt mark [] = ([], []) := rfl

theorem not_mem_cutAt_fst (mark : A) (text : List A) : mark ∉ (cutAt mark text).1 := by
  induction text with
  | nil => simp
  | cons character text inductionHypothesis =>
      by_cases equal : character = mark
      · simp [cutAt, equal]
      · have other : mark ≠ character := fun clash => equal clash.symm
        simpa [cutAt, equal, other] using inductionHypothesis

theorem cutAt_append {mark : A} {first : List A} (absent : mark ∉ first) (second : List A) :
    cutAt mark (first ++ mark :: second) = (first, second) := by
  induction first with
  | nil => simp [cutAt]
  | cons character first inductionHypothesis =>
      have different : character ≠ mark := fun equal => absent (by simp [equal])
      have tail := inductionHypothesis fun member => absent (List.mem_cons_of_mem _ member)
      simp only [cutAt, Prod.mk.injEq] at tail
      simp [cutAt, different, tail.1, tail.2]

theorem cutAt_of_not_mem {mark : A} {text : List A} (absent : mark ∉ text) :
    cutAt mark text = (text, []) := by
  induction text with
  | nil => rfl
  | cons character text inductionHypothesis =>
      have different : character ≠ mark := fun equal => absent (by simp [equal])
      have tail := inductionHypothesis fun member => absent (List.mem_cons_of_mem _ member)
      simp only [cutAt, Prod.mk.injEq] at tail
      simp [cutAt, different, tail.1, tail.2]

/-- The two parts and the mark give the text back. -/
theorem cutAt_parts {mark : A} {text : List A} (present : mark ∈ text) :
    (cutAt mark text).1 ++ mark :: (cutAt mark text).2 = text := by
  induction text with
  | nil => simp at present
  | cons character text inductionHypothesis =>
      by_cases equal : character = mark
      · simp [cutAt, equal]
      · have later : mark ∈ text := by
          cases present with
          | head => exact absurd rfl equal
          | tail _ member => exact member
        simpa [cutAt, equal] using inductionHypothesis later

end Parts

/-- The order of code points, where a text stands before its continuations. -/
def ordered : Text → Text → Bool
  | [], _ => true
  | _ :: _, [] => false
  | first :: firsts, second :: seconds =>
      first.toNat < second.toNat || (first == second && ordered firsts seconds)

/-- The greatest number of digits in a decimal integer. -/
def digitLimit : Nat := 4300

/-- The decimal digits of a natural number. -/
def ofNat (number : Nat) : Text :=
  Nat.toDigits 10 number

/-- The decimal digits with zeros on the left up to a given width. -/
def ofNatPadded (width number : Nat) : Text :=
  (ofNat number).leftpad width '0'

/-- The decimal digits of an integer after its minus sign. -/
def ofInt : Int → Text
  | .ofNat number => ofNat number
  | .negSucc number => '-' :: ofNat (number + 1)

section Joins

variable {A : Type}

/-- The parts with a separator between neighbours. -/
def join (separator : List A) (parts : List (List A)) : List A :=
  separator.intercalate parts

@[simp] theorem join_nil (separator : List A) : join separator [] = [] := rfl

@[simp] theorem join_singleton (separator part : List A) : join separator [part] = part :=
  List.intercalate_singleton

theorem join_cons_cons (separator part next : List A) (parts : List (List A)) :
    join separator (part :: next :: parts) = part ++ separator ++ join separator (next :: parts) :=
  List.intercalate_cons_cons

end Joins

end Text

end UriExpansion
