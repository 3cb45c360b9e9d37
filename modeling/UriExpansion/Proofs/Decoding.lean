import UriExpansion.Proofs.Alphabet
import UriExpansion.Text.CodePoint

namespace UriExpansion

namespace PercentEncoding

theorem hexValue?_hexDigit {number : Nat} (small : number < 16) :
    hexValue? (hexDigit number) = some number := by
  have digits : ∀ digit < 16, hexValue? (hexDigit digit) = some digit := by decide
  exact digits number small

/-- A triple at the start of a text is read as its byte. -/
theorem bytes?_triple_append (byte : UInt8) (rest : Text) :
    bytes? (triple byte ++ rest) = (bytes? rest).map (byte :: ·) := by
  have bounded := byte.toNat_lt
  have high := hexValue?_hexDigit (show byte.toNat / 16 < 16 by omega)
  have low := hexValue?_hexDigit (show byte.toNat % 16 < 16 by omega)
  have whole : UInt8.ofNat (16 * (byte.toNat / 16) + byte.toNat % 16) = byte := by
    rw [Nat.div_add_mod, UInt8.ofNat_toNat]
  change bytes? ('%' :: hexDigit (byte.toNat / 16) :: hexDigit (byte.toNat % 16) :: rest) = _
  rw [bytes?, high, low]
  simp only [Option.bind_eq_bind, Option.bind_some, whole]
  cases bytes? rest <;> rfl

theorem bytes?_triples_append (bytes : List UInt8) (rest : Text) :
    bytes? (bytes.flatMap triple ++ rest) = (bytes? rest).map (bytes ++ ·) := by
  induction bytes with
  | nil => simp
  | cons byte bytes inductionHypothesis =>
      rw [List.flatMap_cons, List.append_assoc, bytes?_triple_append, inductionHypothesis,
        Option.map_map]
      rfl

/-- An unreserved character at the start of a text is read as one byte. -/
theorem bytes?_cons_of_isUnreserved {character : Char} (unreserved : isUnreserved character = true)
    (rest : Text) :
    bytes? (character :: rest) = (bytes? rest).map (UInt8.ofNat character.toNat :: ·) := by
  have other : character ≠ '%' := by
    rintro rfl
    exact absurd unreserved (by decide)
  rw [bytes?, if_pos unreserved]
  rintro high low rest' rfl
  exact absurd rfl other

theorem toNat_le_of_isAlphanum {character : Char} (alphanumeric : character.isAlphanum = true) :
    character.toNat ≤ 127 := by
  have kinds : (character.isUpper = true ∨ character.isLower = true) ∨
      character.isDigit = true := by
    rw [← Bool.or_eq_true, ← Bool.or_eq_true]
    exact alphanumeric
  rcases kinds with (upper | lower) | digit
  · have bounds : 'A'.val ≤ character.val ∧ character.val ≤ 'Z'.val := of_decide_eq_true upper
    exact Nat.le_trans (UInt32.le_iff_toNat_le.mp bounds.2) (by decide)
  · have below : character.val ≤ 'z'.val := of_decide_eq_true (Bool.and_eq_true_iff.mp lower).2
    exact Nat.le_trans (UInt32.le_iff_toNat_le.mp below) (by decide)
  · exact Nat.le_trans (Char.isDigit_iff_toNat.mp digit).2 (by decide)

/-- The unreserved characters are ASCII characters. -/
theorem toNat_le_of_isUnreserved {character : Char} (unreserved : isUnreserved character = true) :
    character.toNat ≤ 127 := by
  simp only [isUnreserved, Bool.or_eq_true, beq_iff_eq] at unreserved
  rcases unreserved with (((alphanumeric | rfl) | rfl) | rfl) | rfl
  · exact toNat_le_of_isAlphanum alphanumeric
  all_goals decide

theorem utf8EncodeChar_of_isUnreserved {character : Char}
    (unreserved : isUnreserved character = true) :
    String.utf8EncodeChar character = [UInt8.ofNat character.toNat] :=
  if_pos (toNat_le_of_isUnreserved unreserved)

/-- A text that begins with an encoded character is read from its bytes. -/
theorem bytes?_encodeCharacter_append (character : Char) (rest : Text) :
    bytes? (encodeCharacter character ++ rest) =
      (bytes? rest).map (String.utf8EncodeChar character ++ ·) := by
  unfold encodeCharacter
  split
  · next unreserved =>
      rw [utf8EncodeChar_of_isUnreserved unreserved]
      exact bytes?_cons_of_isUnreserved unreserved rest
  · exact bytes?_triples_append _ rest

/-- The bytes of an encoded text are the UTF-8 bytes of its source. -/
theorem bytes?_encode (text : Text) : bytes? (encode text) = some (Text.toUtf8 text) := by
  induction text with
  | nil => rfl
  | cons character text inductionHypothesis =>
      rw [encode_cons, bytes?_encodeCharacter_append, inductionHypothesis]
      rfl

/-- The source of an encoded text is read back. -/
@[simp] theorem decode?_encode (text : Text) : decode? (encode text) = some text := by
  rw [decode?, bytes?_encode, Option.bind_some, Text.ofUtf8?_toUtf8]

theorem encode_injective {first second : Text} (same : encode first = encode second) :
    first = second := by
  have decoded : some first = some second := by
    rw [← decode?_encode, same, decode?_encode]
  exact Option.some.inj decoded

end PercentEncoding

namespace CodeText

/-- A code text is decoded if it is a text. -/
def decode? (points : CodeText) : Option CodeText :=
  (points.toText?.bind PercentEncoding.decode?).map ofText

end CodeText

end UriExpansion
