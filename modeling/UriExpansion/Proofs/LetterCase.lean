import UriExpansion.Operator

namespace UriExpansion

namespace Text

variable {character : Char}

/-- The k is also the lower case of a character beyond ASCII. -/
def isNameLetter (character : Char) : Bool :=
  character.isLower && character != 'k'

theorem isNameLetter_iff :
    isNameLetter character = true ↔
      (97 ≤ character.toNat ∧ character.toNat ≤ 122) ∧ character.toNat ≠ 107 := by
  have kay : character = 'k' ↔ character.toNat = 107 := Char.toNat_inj.symm
  have lower : character.isLower = true ↔ 97 ≤ character.toNat ∧ character.toNat ≤ 122 := by
    change (decide ('a' ≤ character) && decide (character ≤ 'z')) = true ↔ _
    rw [Bool.and_eq_true, decide_eq_true_iff, decide_eq_true_iff]
    rfl
  rw [isNameLetter, Bool.and_eq_true, lower, bne_iff_ne, ne_eq, kay]

/-- The first run holds the capital letters of ASCII. -/
theorem caseRuns_eq : caseRuns = ⟨0x41, 0x5A, 1, 32⟩ :: caseRuns.tail := rfl

/-- A later run starts and ends beyond ASCII unless it leads to k. -/
theorem bounds_of_mem_tail_caseRuns : ∀ run ∈ caseRuns.tail,
    128 ≤ run.first ∧
      (128 ≤ run.first + run.shift ∨ run.first = run.last ∧ run.first + run.shift = 107) := by
  decide +kernel

/-- A number that is no code leads to the zero character. -/
theorem toNat_ofNat_eq_or (number : Nat) :
    (Char.ofNat number).toNat = number ∨ (Char.ofNat number).toNat = 0 := by
  unfold Char.ofNat
  by_cases valid : number.isValidChar
  · rw [dif_pos valid]
    exact .inl rfl
  · rw [dif_neg valid]
    exact .inr rfl

theorem CaseRun.bounds_of_holds {run : CaseRun} {code : Nat} (holds : run.holds code = true) :
    run.first ≤ code ∧ code ≤ run.last := by
  simp only [CaseRun.holds, Bool.and_eq_true, decide_eq_true_eq] at holds
  exact holds.1

theorem toLower_ofNat : ∀ code < 128,
    (Char.ofNat code).toLower =
      if CaseRun.holds ⟨0x41, 0x5A, 1, 32⟩ code then Char.ofNat (code + 32 : Int).toNat
      else Char.ofNat code := by
  decide +kernel

/-- The full lower case of an ASCII character is its own lower case. -/
theorem lowerCharacter_of_ascii (ascii : character.toNat < 128) :
    lowerCharacter character = [character.toLower] := by
  have notDotted : character.toNat ≠ 0x130 := by omega
  have noLaterRun : (caseRuns.tail.find? fun run => run.holds character.toNat) = none := by
    rw [List.find?_eq_none]
    intro run member holds
    have starts := (bounds_of_mem_tail_caseRuns run member).1
    have reached := (CaseRun.bounds_of_holds holds).1
    omega
  have lowered := toLower_ofNat character.toNat ascii
  rw [Char.ofNat_toNat] at lowered
  rw [lowerCharacter, if_neg notDotted, caseRuns_eq, List.find?_cons, noLaterRun, lowered]
  cases CaseRun.holds ⟨0x41, 0x5A, 1, 32⟩ character.toNat <;> rfl

theorem toLower_of_not_ascii (beyond : 128 ≤ character.toNat) : character.toLower = character := by
  unfold Char.toLower
  rw [dif_neg]
  rintro ⟨_, below⟩
  have bound : character.toNat ≤ 90 := UInt32.le_iff_toNat_le.mp below
  omega

/-- No run leads from beyond ASCII to a letter of a name. -/
theorem isNameLetter_of_holds {run : CaseRun} {code : Nat} (beyond : 128 ≤ code)
    (listed : run ∈ caseRuns) (holds : run.holds code = true) :
    isNameLetter (Char.ofNat (code + run.shift).toNat) = false := by
  have reached := CaseRun.bounds_of_holds holds
  rw [Bool.eq_false_iff, ne_eq, isNameLetter_iff]
  rw [caseRuns_eq, List.mem_cons] at listed
  rcases listed with rfl | later
  · have last : code ≤ 90 := reached.2
    omega
  · have image := (bounds_of_mem_tail_caseRuns run later).2
    rcases toNat_ofNat_eq_or (code + run.shift).toNat with code | zero <;> omega

/-- The lower case of a character beyond ASCII is part of no name. -/
theorem exists_mem_lowerCharacter (beyond : 128 ≤ character.toNat) :
    ∃ lowered ∈ lowerCharacter character, isNameLetter lowered = false := by
  unfold lowerCharacter
  split
  · exact ⟨Char.ofNat 0x307, by simp, by decide⟩
  · split
    · next run found =>
        have holds : run.holds character.toNat = true := by simpa using List.find?_some found
        exact ⟨_, List.mem_singleton_self _,
          isNameLetter_of_holds beyond (List.mem_of_find?_eq_some found) holds⟩
    · refine ⟨_, List.mem_singleton_self _, ?_⟩
      rw [Bool.eq_false_iff, ne_eq, isNameLetter_iff]
      omega

/-- Only ASCII letters contribute to a name in lower case. -/
theorem lower_eq_iff {text name : Text}
    (letters : ∀ character ∈ name, isNameLetter character = true) :
    text.lower = name ↔ text.map Char.toLower = name := by
  induction text generalizing name with
  | nil => rfl
  | cons character text inductionHypothesis =>
      have lowered : lower (character :: text) = lowerCharacter character ++ lower text := rfl
      rw [lowered, List.map_cons]
      by_cases ascii : character.toNat < 128
      · rw [lowerCharacter_of_ascii ascii, List.singleton_append]
        cases name with
        | nil => simp
        | cons letter name =>
            have later := inductionHypothesis fun other member =>
              letters other (List.mem_cons_of_mem letter member)
            rw [List.cons.injEq, List.cons.injEq, later]
      · -- Neither text is a name, since each of them holds a character that stands in no name.
        have beyond : 128 ≤ character.toNat := Nat.le_of_not_lt ascii
        refine iff_of_false ?_ ?_
        · rintro rfl
          obtain ⟨other, member, notLetter⟩ := exists_mem_lowerCharacter beyond
          have letter := letters other (List.mem_append_left _ member)
          exact absurd (letter.symm.trans notLetter) (by decide)
        · rintro rfl
          have letter := letters _ List.mem_cons_self
          rw [toLower_of_not_ascii beyond, isNameLetter_iff] at letter
          omega

end Text

namespace Operator

theorem isNameLetter_of_writtenName? {operator : Operator} {name : Text}
    (written : operator.writtenName? = some name) :
    ∀ character ∈ name, Text.isNameLetter character = true := by
  have letters : name.all Text.isNameLetter = true := by
    cases operator <;> cases written <;> rfl
  exact List.all_eq_true.mp letters

/-- The known operators are written, and no two are written alike. -/
theorem mem_known_of_writtenName? {operator : Operator} {name : Text}
    (written : operator.writtenName? = some name) : operator ∈ known := by
  cases operator with
  | unknown => cases written
  | plain | prepend | append | join | list | opt | neg => decide

theorem eq_of_writtenName?_eq : ∀ operator ∈ known, ∀ other ∈ known,
    operator.writtenName? = other.writtenName? → operator = other := by
  decide

theorem eq_of_writtenName?_eq_some {first second : Operator} {name : Text}
    (firstWritten : first.writtenName? = some name)
    (secondWritten : second.writtenName? = some name) : first = second :=
  eq_of_writtenName?_eq first (mem_known_of_writtenName? firstWritten) second
    (mem_known_of_writtenName? secondWritten) (firstWritten.trans secondWritten.symm)

/-- A test that one known operator passes selects that operator. -/
theorem getD_find?_known_eq_iff {test : Operator → Bool}
    (listed : ∀ operator, test operator = true → operator ∈ known)
    (unique : ∀ operator other, test operator = true → test other = true → operator = other)
    {operator : Operator} (notUnknown : operator ≠ .unknown) :
    (known.find? test).getD .unknown = operator ↔ test operator = true := by
  cases found : known.find? test with
  | none =>
      have refused := List.find?_eq_none.mp found
      exact iff_of_false (fun same => notUnknown same.symm)
        fun passed => refused operator (listed operator passed) passed
  | some other =>
      have otherPassed : test other = true := List.find?_some found
      constructor
      · rintro rfl
        exact otherPassed
      · intro passed
        exact unique other operator otherPassed passed

/-- A text selects the operator whose name it spells in upper or lower case. -/
theorem ofName_eq_iff {operator : Operator} {name : Text}
    (written : operator.writtenName? = some name) (text : Text) :
    ofName text = operator ↔ text.map Char.toLower = name := by
  have notUnknown : operator ≠ .unknown := by
    rintro rfl
    cases written
  have writes (other : Operator) (passed : (other.writtenName? == some text.lower) = true) :
      other.writtenName? = some text.lower :=
    beq_iff_eq.mp passed
  have selected : ofName text = operator ↔ (operator.writtenName? == some text.lower) = true :=
    getD_find?_known_eq_iff (fun other passed => mem_known_of_writtenName? (writes other passed))
      (fun first second firstPassed secondPassed =>
        eq_of_writtenName?_eq_some (writes first firstPassed) (writes second secondPassed))
      notUnknown
  rw [selected, beq_iff_eq, written, Option.some.injEq, eq_comm,
    Text.lower_eq_iff (isNameLetter_of_writtenName? written)]

end Operator

end UriExpansion
