import UriExpansion.Text.Utf8

namespace UriExpansion.PercentEncoding

/-- The unreserved characters are the ASCII letters and digits and four marks. -/
def isUnreserved (character : Char) : Bool :=
  character.isAlphanum || character == '-' || character == '.' || character == '_' ||
    character == '~'

/-- The upper-case hexadecimal digit of a number below sixteen. -/
def hexDigit (number : Nat) : Char :=
  if number < 10 then Char.ofNat ('0'.toNat + number) else Char.ofNat ('A'.toNat + (number - 10))

/-- The number of an upper-case hexadecimal digit. -/
def hexValue? (digit : Char) : Option Nat :=
  if digit.isDigit then some (digit.toNat - '0'.toNat)
  else if 'A' ≤ digit ∧ digit ≤ 'F' then some (digit.toNat - 'A'.toNat + 10)
  else none

/-- A triple is a percent sign and the two digits of a byte. -/
def triple (byte : UInt8) : Text :=
  ['%', hexDigit (byte.toNat / 16), hexDigit (byte.toNat % 16)]

/-- An unreserved character stands for itself and every other one becomes its triples. -/
def encodeCharacter (character : Char) : Text :=
  if isUnreserved character then [character]
  else (String.utf8EncodeChar character).flatMap triple

/-- Each character is encoded on its own. -/
def encode (text : Text) : Text :=
  text.flatMap encodeCharacter

/-- A reserved character and a percent sign without two digits are refused. -/
def bytes? : Text → Option (List UInt8)
  | [] => some []
  | '%' :: high :: low :: rest => do
      let first ← hexValue? high
      let second ← hexValue? low
      let bytes ← bytes? rest
      return UInt8.ofNat (16 * first + second) :: bytes
  | character :: rest =>
      if isUnreserved character then
        (bytes? rest).map (UInt8.ofNat character.toNat :: ·)
      else none

/-- The triples are decoded first and then the UTF-8 form. -/
def decode? (text : Text) : Option Text :=
  (bytes? text).bind Text.ofUtf8?

@[simp] theorem encode_nil : encode [] = [] := rfl

@[simp] theorem encode_cons (character : Char) (text : Text) :
    encode (character :: text) = encodeCharacter character ++ encode text := rfl

end UriExpansion.PercentEncoding
