import Mathlib.Data.List.Basic
import Mathlib.Data.Set.Function
import UriExpansion.Proofs.Decoding

namespace UriExpansion.PercentEncoding

/-- The upper-case hexadecimal digits stand in order of their numbers. -/
def hexDigits : Text :=
  ['0', '1', '2', '3', '4', '5', '6', '7', '8', '9', 'A', 'B', 'C', 'D', 'E', 'F']

/-- Unreserved characters spell their bytes, and triples spell all other bytes. -/
inductive Spells : Text → List UInt8 → Prop where
  | nil : Spells [] []
  | unreserved {character : Char} {text : Text} {bytes : List UInt8}
      (kept : isUnreserved character = true) (rest : Spells text bytes) :
      Spells (character :: text) (UInt8.ofNat character.toNat :: bytes)
  | escaped {byte : UInt8} {high low : Char} {text : Text} {bytes : List UInt8}
      (reserved : isUnreserved (Char.ofNat byte.toNat) = false)
      (highDigit : hexDigits[byte.toNat / 16]? = some high)
      (lowDigit : hexDigits[byte.toNat % 16]? = some low) (rest : Spells text bytes) :
      Spells ('%' :: high :: low :: text) (byte :: bytes)

/-- A canonical text spells valid UTF-8 bytes. -/
def IsCanonical (coded : Text) : Prop :=
  ∃ bytes, Spells coded bytes ∧ (Text.ofUtf8? bytes).isSome = true

/-- The canonical spelling of a byte. -/
def encodeByte (byte : UInt8) : Text :=
  if isUnreserved (Char.ofNat byte.toNat) then [Char.ofNat byte.toNat] else triple byte

theorem getElem?_hexDigits {number : Nat} (small : number < 16) :
    hexDigits[number]? = some (hexDigit number) := by
  have digits : ∀ digit < 16, hexDigits[digit]? = some (hexDigit digit) := by decide
  exact digits number small

theorem getElem?_hexDigits_high (byte : UInt8) :
    hexDigits[byte.toNat / 16]? = some (hexDigit (byte.toNat / 16)) := by
  have bounded := byte.toNat_lt
  exact getElem?_hexDigits (by omega)

theorem getElem?_hexDigits_low (byte : UInt8) :
    hexDigits[byte.toNat % 16]? = some (hexDigit (byte.toNat % 16)) :=
  getElem?_hexDigits (by omega)

/-- The character of a byte has the number of that byte. -/
theorem toNat_ofNat_toNat (byte : UInt8) : (Char.ofNat byte.toNat).toNat = byte.toNat := by
  have valid : byte.toNat.isValidChar := .inl (Nat.lt_trans byte.toNat_lt (by decide))
  unfold Char.ofNat
  rw [dif_pos valid]
  rfl

theorem ofNat_toNat_of_isUnreserved {character : Char}
    (unreserved : isUnreserved character = true) :
    Char.ofNat (UInt8.ofNat character.toNat).toNat = character := by
  have ascii := toNat_le_of_isUnreserved unreserved
  rw [UInt8.toNat_ofNat', Nat.mod_eq_of_lt (by omega), Char.ofNat_toNat]

theorem spells_encodeByte_append (byte : UInt8) {text : Text} {bytes : List UInt8}
    (rest : Spells text bytes) : Spells (encodeByte byte ++ text) (byte :: bytes) := by
  unfold encodeByte
  split
  · next unreserved =>
      have step := Spells.unreserved unreserved rest
      rwa [toNat_ofNat_toNat, UInt8.ofNat_toNat] at step
  · next reserved =>
      exact .escaped (Bool.eq_false_iff.mpr reserved) (getElem?_hexDigits_high byte)
        (getElem?_hexDigits_low byte) rest

/-- Bytes have one canonical spelling. -/
theorem spells_iff {coded : Text} {bytes : List UInt8} :
    Spells coded bytes ↔ coded = bytes.flatMap encodeByte := by
  constructor
  · intro spelled
    induction spelled with
    | nil => rfl
    | unreserved kept rest inductionHypothesis =>
        rw [List.flatMap_cons, encodeByte, ofNat_toNat_of_isUnreserved kept, if_pos kept,
          inductionHypothesis, List.singleton_append]
    | escaped reserved highDigit lowDigit rest inductionHypothesis =>
        rw [getElem?_hexDigits_high, Option.some.injEq] at highDigit
        rw [getElem?_hexDigits_low, Option.some.injEq] at lowDigit
        subst highDigit lowDigit
        rw [List.flatMap_cons, encodeByte, if_neg (Bool.eq_false_iff.mp reserved),
          inductionHypothesis]
        rfl
  · rintro rfl
    induction bytes with
    | nil => exact .nil
    | cons byte bytes inductionHypothesis => exact spells_encodeByte_append byte inductionHypothesis

/-- A character beyond ASCII has no ASCII bytes. -/
theorem le_toNat_of_mem_utf8EncodeChar {character : Char} (beyond : 127 < character.toNat)
    {byte : UInt8} (member : byte ∈ String.utf8EncodeChar character) : 128 ≤ byte.toNat := by
  have code : character.val.toNat = character.toNat := rfl
  simp only [String.utf8EncodeChar, code, Nat.not_le.mpr beyond, if_false] at member
  -- There are two, three or four bytes, and a high bit is set in each of them.
  split at member
  · simp only [List.mem_cons, List.not_mem_nil, or_false] at member
    rcases member with rfl | rfl <;> rw [UInt8.toNat_ofNat'] <;> omega
  · split at member
    · simp only [List.mem_cons, List.not_mem_nil, or_false] at member
      rcases member with rfl | rfl | rfl <;> rw [UInt8.toNat_ofNat'] <;> omega
    · simp only [List.mem_cons, List.not_mem_nil, or_false] at member
      rcases member with rfl | rfl | rfl | rfl <;> rw [UInt8.toNat_ofNat'] <;> omega

/-- The UTF-8 bytes of a reserved character are escaped. -/
theorem isUnreserved_of_mem_utf8EncodeChar {character : Char}
    (reserved : isUnreserved character = false) {byte : UInt8}
    (member : byte ∈ String.utf8EncodeChar character) :
    isUnreserved (Char.ofNat byte.toNat) = false := by
  by_cases ascii : character.toNat ≤ 127
  · rw [show String.utf8EncodeChar character = [UInt8.ofNat character.toNat] from if_pos ascii,
      List.mem_singleton] at member
    rw [member, UInt8.toNat_ofNat', Nat.mod_eq_of_lt (by omega), Char.ofNat_toNat, reserved]
  · have high := le_toNat_of_mem_utf8EncodeChar (Nat.lt_of_not_le ascii) member
    rw [Bool.eq_false_iff]
    intro unreserved
    have low := toNat_le_of_isUnreserved unreserved
    rw [toNat_ofNat_toNat] at low
    omega

/-- A character is encoded as the spelling of its UTF-8 bytes. -/
theorem encodeCharacter_eq (character : Char) :
    encodeCharacter character = (String.utf8EncodeChar character).flatMap encodeByte := by
  unfold encodeCharacter
  split
  · next unreserved =>
      rw [utf8EncodeChar_of_isUnreserved unreserved, List.flatMap_singleton, encodeByte,
        ofNat_toNat_of_isUnreserved unreserved, if_pos unreserved]
  · next reserved =>
      have escaped : ∀ byte ∈ String.utf8EncodeChar character, triple byte = encodeByte byte := by
        intro byte member
        have kept := isUnreserved_of_mem_utf8EncodeChar (Bool.eq_false_iff.mpr reserved) member
        rw [encodeByte, if_neg (Bool.eq_false_iff.mp kept)]
      exact List.flatMap_congr escaped

/-- A text is encoded as the canonical spelling of its UTF-8 bytes. -/
theorem spells_encode (text : Text) : Spells (encode text) (Text.toUtf8 text) := by
  rw [spells_iff, encode, Text.toUtf8, List.flatMap_assoc]
  exact List.flatMap_congr fun character _ => encodeCharacter_eq character

theorem isCanonical_encode (text : Text) : IsCanonical (encode text) :=
  ⟨Text.toUtf8 text, spells_encode text, by rw [Text.ofUtf8?_toUtf8]; rfl⟩

/-- A canonical text is decoded, and the decoded text is encoded as it again. -/
theorem exists_decode?_of_isCanonical {coded : Text} (canonical : IsCanonical coded) :
    ∃ text, decode? coded = some text ∧ encode text = coded := by
  obtain ⟨bytes, spelled, valid⟩ := canonical
  obtain ⟨text, decoded⟩ := Option.isSome_iff_exists.mp valid
  have same : encode text = coded := by
    rw [spells_iff.mp (spells_encode text), Text.toUtf8_of_ofUtf8? decoded, ← spells_iff.mp spelled]
  exact ⟨text, by rw [← same, decode?_encode], same⟩

/-- Encoding is a bijection onto the canonical texts with decoding as its inverse. -/
theorem encode_bijOn_isCanonical :
    Set.BijOn encode Set.univ {coded | IsCanonical coded} ∧
      (∀ text, decode? (encode text) = some text) ∧
      (∀ coded, (∃ text, encode text = coded) ↔ IsCanonical coded) ∧
      ∀ coded, IsCanonical coded → ∃ text, decode? coded = some text ∧ encode text = coded := by
  refine ⟨⟨fun text _ => isCanonical_encode text, fun _ _ _ _ => encode_injective, ?_⟩,
    decode?_encode, fun coded => ⟨?_, ?_⟩, fun coded => exists_decode?_of_isCanonical⟩
  · intro coded canonical
    obtain ⟨text, _, same⟩ := exists_decode?_of_isCanonical canonical
    exact ⟨text, Set.mem_univ text, same⟩
  · rintro ⟨text, rfl⟩
    exact isCanonical_encode text
  · intro canonical
    obtain ⟨text, _, same⟩ := exists_decode?_of_isCanonical canonical
    exact ⟨text, same⟩

/-- An escaped letter, lower-case digits and surrogate bytes are not canonical. -/
theorem encode_bijOn_isCanonical_four_bytes :
    let coded : Text := "%C3%A9-%25%F0%9F%98%80".toList
    IsCanonical coded ∧ (∃ text, decode? coded = some text ∧ encode text = coded) ∧
      ¬ IsCanonical "%41".toList ∧ ¬ IsCanonical "%c3%a9".toList ∧
      ¬ IsCanonical "%ED%A0%80".toList := by
  intro coded
  have canonical : IsCanonical coded :=
    ⟨Text.toUtf8 ['é', '-', '%', '😀'], spells_iff.mpr (by decide +kernel), by decide +kernel⟩
  obtain ⟨_, _, _, decodes⟩ := encode_bijOn_isCanonical
  refine ⟨canonical, decodes coded canonical, fun escaped => ?_, fun lower => ?_,
    fun surrogate => ?_⟩
  · obtain ⟨text, decoded, same⟩ := decodes _ escaped
    have letter : decode? "%41".toList = some ['A'] := by decide +kernel
    obtain rfl := Option.some.inj (letter.symm.trans decoded)
    exact absurd same (by decide +kernel)
  · obtain ⟨text, decoded, _⟩ := decodes _ lower
    have refused : decode? "%c3%a9".toList = none := by decide +kernel
    exact absurd (refused.symm.trans decoded) (by simp)
  · obtain ⟨text, decoded, _⟩ := decodes _ surrogate
    have refused : decode? "%ED%A0%80".toList = none := by decide +kernel
    exact absurd (refused.symm.trans decoded) (by simp)

end UriExpansion.PercentEncoding
