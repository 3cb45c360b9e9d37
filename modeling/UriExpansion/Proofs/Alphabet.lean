import UriExpansion.Text.PercentEncoding

namespace UriExpansion.PercentEncoding

/-- A coded character is unreserved or a percent sign. -/
def isCoded (character : Char) : Bool :=
  isUnreserved character || character == '%'

theorem isUnreserved_hexDigit {number : Nat} (small : number < 16) :
    isUnreserved (hexDigit number) = true := by
  have digits : ∀ digit < 16, isUnreserved (hexDigit digit) = true := by decide
  exact digits number small

theorem isCoded_of_mem_triple {byte : UInt8} {character : Char} (member : character ∈ triple byte) :
    isCoded character = true := by
  have bounded := byte.toNat_lt
  have high := isUnreserved_hexDigit (show byte.toNat / 16 < 16 by omega)
  have low := isUnreserved_hexDigit (show byte.toNat % 16 < 16 by omega)
  simp only [triple, List.mem_cons, List.not_mem_nil, or_false] at member
  obtain rfl | rfl | rfl := member
  · decide
  · rw [isCoded, high, Bool.true_or]
  · rw [isCoded, low, Bool.true_or]

theorem isCoded_of_mem_encodeCharacter {source character : Char}
    (member : character ∈ encodeCharacter source) : isCoded character = true := by
  unfold encodeCharacter at member
  split at member
  · next unreserved =>
      obtain rfl := List.mem_singleton.mp member
      rw [isCoded, unreserved, Bool.true_or]
  · obtain ⟨byte, _, inside⟩ := List.mem_flatMap.mp member
    exact isCoded_of_mem_triple inside

/-- Every character of an encoded text is coded. -/
theorem isCoded_of_mem_encode {text : Text} {character : Char}
    (member : character ∈ encode text) : isCoded character = true := by
  obtain ⟨source, _, inside⟩ := List.mem_flatMap.mp member
  exact isCoded_of_mem_encodeCharacter inside

theorem encodeCharacter_ne_nil (character : Char) : encodeCharacter character ≠ [] := by
  unfold encodeCharacter
  split
  · simp
  · intro empty
    have bytes : String.utf8EncodeChar character ≠ [] := by
      rw [← List.length_pos_iff, String.length_utf8EncodeChar]
      exact character.utf8Size_pos
    obtain ⟨byte, rest, equal⟩ := List.exists_cons_of_ne_nil bytes
    simp [equal, triple] at empty

theorem encode_eq_nil_iff {text : Text} : encode text = [] ↔ text = [] := by
  cases text with
  | nil => simp
  | cons character text => simp [encodeCharacter_ne_nil]

end UriExpansion.PercentEncoding
