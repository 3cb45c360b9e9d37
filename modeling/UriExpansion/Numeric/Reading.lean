import UriExpansion.Numeric.Binary64
import UriExpansion.Text.Numeral

namespace UriExpansion

namespace Text

/-- The value of a digit in a base up to sixteen. -/
def digitValue (digit : Char) : Nat :=
  if digit.isDigit then digit.toNat - '0'.toNat else digit.toLower.toNat - 'a'.toNat + 10

/-- The digits of a base are read from left to right. -/
def readNat (base : Nat) (digits : Text) : Nat :=
  digits.foldl (fun number digit => number * base + digitValue digit) 0

/-- The optional sign is taken off and tells whether it is a minus. -/
def splitSign : Text → Bool × Text
  | '-' :: rest => (true, rest)
  | '+' :: rest => (false, rest)
  | text => (false, text)

/-- A text of digits is not empty and holds nothing else. -/
def isDigits (text : Text) : Bool :=
  !text.isEmpty && text.all Char.isDigit

end Text

namespace Binary64

/-- The part after the exponent mark. -/
def readExponent? : Text → Option Int
  | [] => some 0
  | mark :: rest =>
      let (negative, digits) := Text.splitSign rest
      if mark.toLower = 'e' ∧ Text.isDigits digits then
        let power := Text.readNat 10 digits
        some (if negative then -power else power)
      else none

/-- An unsigned decimal has a digit before or after the point. -/
def readDecimal? (negative : Bool) (text : Text) : Option Binary64 :=
  let whole := text.takeWhile Char.isDigit
  let afterWhole := text.dropWhile Char.isDigit
  let (fraction, rest) := match afterWhole with
    | '.' :: tail => (tail.takeWhile Char.isDigit, tail.dropWhile Char.isDigit)
    | tail => ([], tail)
  if whole.isEmpty && fraction.isEmpty then none
  else
    (readExponent? rest).map fun exponent =>
      ofDecimal negative (Text.readNat 10 (whole ++ fraction)) (exponent - fraction.length)

/-- The words for infinity and for no number may have any case. -/
def ofPlain? (text : Text) : Option Binary64 :=
  let (negative, magnitude) := Text.splitSign text
  let word := magnitude.map Char.toLower
  if word = ['i', 'n', 'f'] ∨ word = ['i', 'n', 'f', 'i', 'n', 'i', 't', 'y'] then
    some (.infinite negative)
  else if word = ['n', 'a', 'n'] then some .nan
  else readDecimal? negative magnitude

/-- A number is read from its plain form. -/
def ofText? (text : Text) : Option Binary64 :=
  (Text.plainNumeral? text).bind ofPlain?

end Binary64

end UriExpansion
