import UriExpansion.Text.Basic

namespace UriExpansion.Text

/-- The codes of the digit zero in the scripts of Unicode 14. -/
def zeroCodes : List Nat := [
  0x30, 0x660, 0x6F0, 0x7C0, 0x966, 0x9E6, 0xA66, 0xAE6, 0xB66, 0xBE6, 0xC66, 0xCE6, 0xD66, 0xDE6,
  0xE50, 0xED0, 0xF20, 0x1040, 0x1090, 0x17E0, 0x1810, 0x1946, 0x19D0, 0x1A80, 0x1A90, 0x1B50,
  0x1BB0, 0x1C40, 0x1C50, 0xA620, 0xA8D0, 0xA900, 0xA9D0, 0xA9F0, 0xAA50, 0xABF0, 0xFF10, 0x104A0,
  0x10D30, 0x11066, 0x110F0, 0x11136, 0x111D0, 0x112F0, 0x11450, 0x114D0, 0x11650, 0x116C0,
  0x11730, 0x118E0, 0x11950, 0x11C50, 0x11D50, 0x11DA0, 0x16A60, 0x16AC0, 0x16B50, 0x1D7CE,
  0x1D7D8, 0x1D7E2, 0x1D7EC, 0x1D7F6, 0x1E140, 0x1E2F0, 0x1E950, 0x1FBF0]

/-- A decimal digit becomes the digit of ASCII with the same value. -/
def plainDigit (character : Char) : Char :=
  let code := character.toNat
  match zeroCodes.find? fun first => first ≤ code && code < first + 10 with
  | some first => Char.ofNat (0x30 + (code - first))
  | none => character

/-- These characters may stand around a numeral. -/
def isSpace (character : Char) : Bool :=
  let code := character.toNat
  (0x09 ≤ code && code ≤ 0x0D) || code == 0x20 || code == 0x85 || code == 0xA0 || code == 0x1680 ||
    (0x2000 ≤ code && code ≤ 0x200A) || code == 0x2028 || code == 0x2029 || code == 0x202F ||
    code == 0x205F || code == 0x3000

/-- The spaces at both ends are dropped. -/
def trim (text : Text) : Text :=
  ((text.dropWhile isSpace).reverse.dropWhile isSpace).reverse

/-- A low line of a numeral has to stand between two digits. -/
def ungroup? : Text → Option Text
  | [] => some []
  | first :: '_' :: next :: rest =>
      if first.isDigit && next.isDigit then (ungroup? (next :: rest)).map (first :: ·) else none
  | character :: rest =>
      if character = '_' then none else (ungroup? rest).map (character :: ·)

/-- The plain form has only digits of ASCII and no spaces. -/
def plainNumeral? (text : Text) : Option Text :=
  ungroup? ((trim text).map plainDigit)

end UriExpansion.Text
