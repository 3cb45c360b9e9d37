import UriExpansion.Datum.Basic
import UriExpansion.Numeric.Reading
import UriExpansion.Yaml.Token

namespace UriExpansion.Yaml.Scalar

/-- A word may be written small, with a capital or in capitals. -/
def casings (word : Text) : List Text :=
  [word, (word.take 1).map Char.toUpper ++ word.drop 1, word.map Char.toUpper]

/-- These words are true. -/
def trueWords : List Text :=
  ["yes".toList, "true".toList, "on".toList].flatMap casings

/-- These words are false. -/
def falseWords : List Text :=
  ["no".toList, "false".toList, "off".toList].flatMap casings

/-- The null datum is a tilde, a word or nothing at all. -/
def nullWords : List Text :=
  [] :: ['~'] :: casings "null".toList

/-- The low lines that group digits are dropped. -/
def ungrouped (digits : Text) : Text :=
  digits.filter (· != '_')

/-- A group holds the digits of a base and low lines. -/
def isGroup (base : Nat) (digits : Text) : Bool :=
  digits.all fun digit =>
    digit == '_' || ((digit.isDigit || digit.isAlpha) && Text.digitValue digit < base)

/-- A group of decimal digits starts with a digit. -/
def isLedGroup (digits : Text) : Bool :=
  digits.head?.any Char.isDigit && isGroup 10 digits

/-- A part after a colon has one or two digits and is below sixty. -/
def isSixtieth (part : Text) : Bool :=
  Text.isDigits part && part.length ≤ 2 && (part.length == 1 || Text.readNat 10 part < 60)

/-- More decimal digits than the limit are refused. -/
def readDecimal (digits : Text) : Except Fault Nat :=
  if Text.digitLimit < digits.length then .error (.tooManyDigits digits.length)
  else .ok (Text.readNat 10 digits)

/-- The parts of a sexagesimal numeral count in powers of sixty. -/
def readSixtieths (parts : List Text) : Except Fault Nat :=
  (parts.mapM readDecimal).map fun numbers =>
    numbers.foldl (fun total number => total * 60 + number) 0

/-- The mark of a base needs a digit after it. -/
def readInteger? (magnitude : Text) : Option (Except Fault Nat) :=
  let based (base : Nat) (digits : Text) : Option (Except Fault Nat) :=
    if digits.isEmpty || !isGroup base digits then none
    else if (ungrouped digits).isEmpty then some (.error (.noDigits base))
    else some (.ok (Text.readNat base (ungrouped digits)))
  match magnitude with
  | ['0'] => some (.ok 0)
  | '0' :: 'b' :: digits => based 2 digits
  | '0' :: 'x' :: digits => based 16 digits
  | '0' :: digits =>
      if isGroup 8 digits then some (.ok (Text.readNat 8 (ungrouped digits))) else none
  | _ =>
      match magnitude.splitOn ':' with
      | leading :: parts =>
          if isLedGroup leading && parts.all isSixtieth then
            some (readSixtieths (ungrouped leading :: parts))
          else none
      | [] => none

/-- An integer has an optional sign. -/
def integer? (text : Text) : Option (Except Fault Datum) :=
  let (negative, magnitude) := Text.splitSign text
  (readInteger? magnitude).map fun result => result.map fun number =>
    .integer (if negative then -number else number)

/-- An exponent is missing or has a sign and digits. -/
def isExponent : Text → Bool
  | [] => true
  | mark :: sign :: digits =>
      (mark == 'e' || mark == 'E') && (sign == '+' || sign == '-') && Text.isDigits digits
  | _ => false

/-- A fraction is a group of digits before an exponent. -/
def isFraction (text : Text) : Bool :=
  let isGrouped (character : Char) : Bool := character.isDigit || character == '_'
  isExponent (text.dropWhile isGrouped)

/-- The sum of two numbers that are not negative. -/
def addReal : Binary64 → Binary64 → Binary64
  | .finite _ first, .finite _ second => .ofRatio false (first + second) Binary64.unitsOfOne
  | .finite _ _, second => second
  | first, _ => first

/-- The product of two factors, of which the first has to be finite. -/
def multiplyReal : Binary64 → Binary64 → Except Fault Binary64
  | .finite _ factor, .finite _ units =>
      .ok (.ofRatio false (units * factor) (Binary64.unitsOfOne * Binary64.unitsOfOne))
  | .finite _ _, number => .ok number
  | _, _ => .error .powerOverflow

/-- A power of sixty is rounded before it is multiplied. -/
def scaleReal (number : Binary64) (power : Nat) : Except Fault Binary64 :=
  multiplyReal (Binary64.ofRatio false (Nat.pow 60 power) 1) number

/-- The parts of a sexagesimal numeral are added from the last one on. -/
def sumSixtieths (power : Nat) (total : Binary64) : List Binary64 → Except Fault Binary64
  | [] => .ok total
  | part :: rest => do
      let scaled ← scaleReal part power
      sumSixtieths (power + 1) (addReal total scaled) rest

/-- A sexagesimal numeral with a point has parts below sixty after its first part. -/
def sexagesimal? (magnitude : Text) : Option (Except Fault Binary64) :=
  let (whole, fraction) := Text.cutAt '.' magnitude
  match whole.splitOn ':' with
  | leading :: part :: parts =>
      if magnitude.contains '.' && isLedGroup leading && (part :: parts).all isSixtieth &&
          isGroup 10 fraction then
        let texts := (ungrouped magnitude).splitOn ':'
        let numbers := texts.filterMap Binary64.ofPlain?
        some (sumSixtieths 0 (.finite false 0) numbers.reverse)
      else none
  | _ => none

/-- The magnitude of a number with a point. -/
def readReal? (negative signed : Bool) (magnitude : Text) : Option (Except Fault Binary64) :=
  let (whole, fraction) := Text.cutAt '.' magnitude
  let decimal := isLedGroup whole || (whole.isEmpty && !signed && fraction.head?.any Char.isDigit)
  if magnitude ∈ [".inf".toList, ".Inf".toList, ".INF".toList] then
    some (.ok (.infinite negative))
  else if !signed && magnitude ∈ [".nan".toList, ".NaN".toList, ".NAN".toList] then some (.ok .nan)
  else if magnitude.contains '.' && decimal && isFraction fraction then
    (Binary64.readDecimal? negative (ungrouped magnitude)).map .ok
  else
    (sexagesimal? magnitude).map fun result => result.map fun number =>
      if negative then number.negate else number

/-- A number with a point has an optional sign. -/
def real? (text : Text) : Option (Except Fault Datum) :=
  let (negative, magnitude) := Text.splitSign text
  (readReal? negative (magnitude.length < text.length) magnitude).map fun result =>
    result.map .real

/-- The number of days in a month. -/
def monthLength (year month : Nat) : Nat :=
  if month = 2 then
    if year % 4 = 0 ∧ (year % 100 ≠ 0 ∨ year % 400 = 0) then 29 else 28
  else if month ∈ [4, 6, 9, 11] then 30
  else 31

/-- The year is checked first, then the month, then the day. -/
def checkDate (year month day : Nat) : Except Fault Datum :=
  if year = 0 then .error .yearRange
  else if month = 0 ∨ 12 < month then .error .monthRange
  else if day = 0 ∨ monthLength year month < day then .error .dayRange
  else .ok (.date year month day)

/-- A date has four digits, two digits and two digits between hyphens. -/
def date? (text : Text) : Option (Except Fault Datum) :=
  match text.splitOn '-' with
  | [year, month, day] =>
      if year.length = 4 ∧ month.length = 2 ∧ day.length = 2 ∧
          (year ++ month ++ day).all Char.isDigit then
        some (checkDate (Text.readNat 10 year) (Text.readNat 10 month) (Text.readNat 10 day))
      else none
  | _ => none

/-- The double angle merges other mappings as a key. -/
def mergeKey : Text := ['<', '<']

/-- The equals sign denotes a value without a type. -/
def valueKey : Text := ['=']

/-- The meaning of a plain scalar. -/
def meaning (text : Text) : Except Fault Datum :=
  if text ∈ nullWords then .ok .null
  else if text ∈ trueWords then .ok (.boolean true)
  else if text ∈ falseWords then .ok (.boolean false)
  else if text = mergeKey ∨ text = valueKey then .error .malformed
  else
    (real? text <|> integer? text <|> date? text).getD (.ok (.text (CodeText.ofText text)))

end UriExpansion.Yaml.Scalar
