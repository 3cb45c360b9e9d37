import Mathlib.Data.List.Forall2
import UriExpansion.Proofs.LetterCase

namespace UriExpansion

namespace CodePoint

variable {point : CodePoint} {part : CodeText}

/-- Only the capital letters of ASCII are written small. -/
def asciiLower : CodePoint → CodePoint
  | .character value => .character value.toLower
  | .surrogate index => .surrogate index

/-- A lone surrogate is no letter of a name. -/
def isNameLetter : CodePoint → Bool
  | .character value => Text.isNameLetter value
  | .surrogate _ => false

/-- The capital sigma has a second small form for the end of a word. -/
inductive HasLower : CodePoint → CodeText → Prop where
  | own (point : CodePoint) : HasLower point point.lower
  | finalSigma : HasLower (.character 'Σ') [.character 'ς']

theorem HasLower.eq_of_ascii (lowers : HasLower point part) (ascii : point.code < 128) :
    part = [point.asciiLower] := by
  cases lowers with
  | own =>
      cases point with
      | character value =>
          rw [lower, Text.lowerCharacter_of_ascii ascii]
          rfl
      | surrogate index =>
          simp only [code] at ascii
          omega
  | finalSigma => exact absurd ascii (by decide)

/-- The lower case of a code point beyond ASCII is part of no name. -/
theorem HasLower.exists_mem_of_not_ascii (lowers : HasLower point part)
    (beyond : 128 ≤ point.code) : ∃ lowered ∈ part, lowered.isNameLetter = false := by
  cases lowers with
  | own =>
      cases point with
      | character value =>
          obtain ⟨lowered, member, notLetter⟩ := Text.exists_mem_lowerCharacter beyond
          exact ⟨.character lowered, List.mem_map_of_mem member, notLetter⟩
      | surrogate index => exact ⟨_, List.mem_singleton_self _, rfl⟩
  | finalSigma => exact ⟨_, List.mem_singleton_self _, by decide⟩

theorem isNameLetter_asciiLower_of_not_ascii (beyond : 128 ≤ point.code) :
    point.asciiLower.isNameLetter = false := by
  cases point with
  | character value =>
      have kept : value.toLower = value := Text.toLower_of_not_ascii beyond
      simp only [code] at beyond
      rw [asciiLower, isNameLetter, kept, Bool.eq_false_iff, ne_eq, Text.isNameLetter_iff]
      omega
  | surrogate index => rfl

end CodePoint

namespace CodeText

variable {name lowered : CodeText} {point : CodePoint}

/-- Each capital sigma may take either small form, wherever it stands. -/
def LowersTo (name lowered : CodeText) : Prop :=
  ∃ parts, List.Forall₂ CodePoint.HasLower name parts ∧ lowered = parts.flatten

theorem lowersTo_lower (name : CodeText) : LowersTo name name.lower :=
  ⟨name.map CodePoint.lower, List.forall₂_map_right_iff.mpr
    (List.forall₂_same.mpr fun point _ => .own point), List.flatMap_def⟩

/-- The lower case of an ASCII name changes its capital letters alone. -/
theorem LowersTo.eq_of_ascii (lowers : LowersTo name lowered)
    (ascii : ∀ point ∈ name, point.code < 128) : lowered = name.map CodePoint.asciiLower := by
  obtain ⟨parts, each, rfl⟩ := lowers
  induction each with
  | nil => rfl
  | cons first rest inductionHypothesis =>
      rw [List.forall_mem_cons] at ascii
      rw [List.flatten_cons, first.eq_of_ascii ascii.1, inductionHypothesis ascii.2]
      rfl

theorem LowersTo.exists_mem_of_not_ascii (lowers : LowersTo name lowered) (member : point ∈ name)
    (beyond : 128 ≤ point.code) : ∃ other ∈ lowered, other.isNameLetter = false := by
  obtain ⟨parts, each, rfl⟩ := lowers
  induction each with
  | nil => exact absurd member List.not_mem_nil
  | cons first rest inductionHypothesis =>
      rcases List.mem_cons.mp member with rfl | later
      · obtain ⟨other, inside, notLetter⟩ := first.exists_mem_of_not_ascii beyond
        exact ⟨other, List.mem_append_left _ inside, notLetter⟩
      · obtain ⟨other, inside, notLetter⟩ := inductionHypothesis later
        exact ⟨other, List.mem_append_right _ inside, notLetter⟩

end CodeText

namespace Operator

variable {operator : Operator} {name lowered : CodeText} {point : CodePoint}

/-- A code text is the written name of an operator. -/
def IsWritten (operator : Operator) (name : CodeText) : Prop :=
  operator.writtenName?.map CodeText.ofText = some name

instance (operator : Operator) (name : CodeText) : Decidable (operator.IsWritten name) :=
  inferInstanceAs (Decidable (_ = _))

theorem isWritten_iff :
    operator.IsWritten name ↔
      ∃ written, operator.writtenName? = some written ∧ CodeText.ofText written = name :=
  Option.map_eq_some_iff

theorem IsWritten.isNameLetter (written : operator.IsWritten name) (member : point ∈ name) :
    point.isNameLetter = true := by
  obtain ⟨text, same, rfl⟩ := isWritten_iff.mp written
  obtain ⟨character, inside, rfl⟩ := List.mem_map.mp member
  exact isNameLetter_of_writtenName? same character inside

/-- No two operators are written alike. -/
theorem IsWritten.unique {first second : Operator} (firstWritten : first.IsWritten name)
    (secondWritten : second.IsWritten name) : first = second := by
  obtain ⟨text, firstText, rfl⟩ := isWritten_iff.mp firstWritten
  obtain ⟨other, secondText, same⟩ := isWritten_iff.mp secondWritten
  rw [CodeText.ofText_injective same] at secondText
  exact eq_of_writtenName?_eq_some firstText secondText

/-- A code point beyond ASCII stays when only the ASCII capitals are written small. -/
theorem not_isWritten_of_not_ascii (member : point ∈ name) (beyond : 128 ≤ point.code) :
    ¬ operator.IsWritten (name.map CodePoint.asciiLower) := by
  intro written
  have letter := written.isNameLetter (List.mem_map_of_mem member)
  rw [CodePoint.isNameLetter_asciiLower_of_not_ascii beyond] at letter
  exact absurd letter (by decide)

/-- Only the lower case of ASCII letters makes a written name. -/
theorem isWritten_iff_of_lowersTo (lowers : CodeText.LowersTo name lowered) :
    operator.IsWritten lowered ↔ operator.IsWritten (name.map CodePoint.asciiLower) := by
  by_cases ascii : ∀ point ∈ name, point.code < 128
  · rw [lowers.eq_of_ascii ascii]
  · -- A code point beyond ASCII leaves on both sides one that stands in no name.
    simp only [not_forall, Nat.not_lt] at ascii
    obtain ⟨point, member, beyond⟩ := ascii
    refine iff_of_false (fun written => ?_) (not_isWritten_of_not_ascii member beyond)
    obtain ⟨other, inside, notLetter⟩ := lowers.exists_mem_of_not_ascii member beyond
    exact absurd ((written.isNameLetter inside).symm.trans notLetter) (by decide)

/-- The search selects the operator that is written like the lower case. -/
theorem ofPoints_eq_iff :
    operator ≠ .unknown ∧ ofPoints name = operator ↔ operator.IsWritten name.lower := by
  have passes (other : Operator) :
      (other.writtenName?.map CodeText.ofText == some name.lower) = true ↔
        other.IsWritten name.lower :=
    beq_iff_eq
  have listed (other : Operator) (written : other.IsWritten name.lower) : other ∈ known := by
    obtain ⟨text, written, _⟩ := isWritten_iff.mp written
    exact mem_known_of_writtenName? written
  have selected (notUnknown : operator ≠ .unknown) :
      ofPoints name = operator ↔ operator.IsWritten name.lower := by
    rw [ofPoints, getD_find?_known_eq_iff ?_ ?_ notUnknown, passes]
    · exact fun other passed => listed other ((passes other).mp passed)
    · exact fun first second firstPassed secondPassed =>
        ((passes first).mp firstPassed).unique ((passes second).mp secondPassed)
  constructor
  · rintro ⟨notUnknown, same⟩
    exact (selected notUnknown).mp same
  · intro written
    have notUnknown : operator ≠ .unknown := by
      rintro rfl
      exact absurd (listed .unknown written) (by decide)
    exact ⟨notUnknown, (selected notUnknown).mpr written⟩

/-- A name without lone surrogates is searched as a text. -/
theorem ofPoints_ofText (text : Text) : ofPoints (.ofText text) = ofName text := by
  have tests (operator : Operator) :
      (operator.writtenName?.map CodeText.ofText == some (CodeText.ofText text.lower)) =
        (operator.writtenName? == some text.lower) := by
    cases operator.writtenName? with
    | none => rfl
    | some written =>
        have same : CodeText.ofText written = .ofText text.lower ↔ written = text.lower :=
          ⟨CodeText.ofText_injective, congrArg CodeText.ofText⟩
        rw [Bool.eq_iff_iff, beq_iff_eq, beq_iff_eq, Option.map_some, Option.some.injEq,
          Option.some.injEq, same]
  simp only [ofPoints, ofName, CodeText.lower_ofText, tests]

/-- A name selects an operator just if its ASCII capitals spell it. -/
theorem ofPoints_selects_written :
    (∀ (name : CodeText) (operator : Operator),
      operator ≠ .unknown ∧ ofPoints name = operator ↔
        operator.IsWritten (name.map CodePoint.asciiLower)) ∧
    (∀ name lowered : CodeText, CodeText.LowersTo name lowered → ∀ operator : Operator,
      operator ≠ .unknown ∧ ofPoints name = operator ↔ operator.IsWritten lowered) ∧
    (∀ name : CodeText, (∃ point ∈ name, 128 ≤ point.code) → ofPoints name = .unknown) ∧
    ∀ text : Text, ofPoints (.ofText text) = ofName text := by
  have selects (name : CodeText) (operator : Operator) :
      operator ≠ .unknown ∧ ofPoints name = operator ↔
        operator.IsWritten (name.map CodePoint.asciiLower) := by
    rw [ofPoints_eq_iff, isWritten_iff_of_lowersTo (CodeText.lowersTo_lower name)]
  refine ⟨selects, fun name lowered lowers operator => ?_, fun name => ?_, ofPoints_ofText⟩
  · rw [selects, isWritten_iff_of_lowersTo lowers]
  · rintro ⟨point, member, beyond⟩
    by_contra known
    exact not_isWritten_of_not_ascii member beyond ((selects name _).mp ⟨known, rfl⟩)

/-- A dotted capital and a lone surrogate spell no operator. -/
theorem ofPoints_selects_written_dotted_capital :
    let name : CodeText := .ofText "LisT".toList
    let dotted : CodeText := .ofText "L\u0130ST".toList
    let lowered : CodeText := .ofText "li\u0307st".toList
    let surrogate : CodeText := .surrogate 0 :: CodeText.ofText "opt".toList
    ofPoints name = .list ∧ CodeText.LowersTo dotted lowered ∧
      (∀ operator : Operator, ¬ operator.IsWritten lowered) ∧
      (∃ point ∈ dotted, 128 ≤ point.code) ∧ ofPoints dotted = .unknown ∧
      (∃ point ∈ surrogate, 128 ≤ point.code) ∧ ofPoints surrogate = .unknown := by
  intro name dotted lowered surrogate
  obtain ⟨selects, lowers, hides, _⟩ := ofPoints_selects_written
  have lowersTo : CodeText.LowersTo dotted lowered := by
    have same : dotted.lower = lowered := by decide +kernel
    exact same ▸ CodeText.lowersTo_lower dotted
  have list : ofPoints name = .list := ((selects name .list).mpr (by decide +kernel)).2
  have dottedBeyond : ∃ point ∈ dotted, 128 ≤ point.code := by decide +kernel
  have surrogateBeyond : ∃ point ∈ surrogate, 128 ≤ point.code := by decide +kernel
  have unknown : ofPoints dotted = .unknown := hides dotted dottedBeyond
  refine ⟨list, lowersTo, fun operator written => ?_, dottedBeyond, unknown, surrogateBeyond,
    hides surrogate surrogateBeyond⟩
  obtain ⟨known, selected⟩ := (lowers dotted lowered lowersTo operator).mpr written
  exact known (selected.symm.trans unknown)

end Operator

end UriExpansion
