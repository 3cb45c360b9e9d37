import UriExpansion.Numeric.Binary64
import UriExpansion.Text.Basic

namespace UriExpansion.Binary64

/-- The power of ten has the positive part of the exponent. -/
def scaleUp (place : Int) : Nat := Nat.pow 10 place.toNat

/-- The power of ten has the negative part of the exponent. -/
def scaleDown (place : Int) : Nat := Nat.pow 10 (-place).toNat

/-- The midpoints belong to the number with an even significand. -/
def readsBack (units : Nat) (place : Int) (coefficient : Nat) : Bool :=
  let gap := Nat.pow 2 (gapExponent units)
  let significand := units / gap
  let below := if significand = Nat.pow 2 52 ∧ 1 < gap then gap / 2 else gap
  let decimal := coefficient * scaleUp place * (2 * unitsOfOne)
  let low := (2 * units - below) * scaleDown place
  let high := (2 * units + gap) * scaleDown place
  if significand % 2 = 0 then low ≤ decimal && decimal ≤ high else low < decimal && decimal < high

/-- The nearer neighbour that reads back is better, or else the even one. -/
def neighbour? (units : Nat) (place : Int) : Option Nat :=
  let numerator := units * scaleDown place
  let denominator := unitsOfOne * scaleUp place
  let lower := numerator / denominator
  let nearest := roundHalfEven numerator denominator
  let other := if nearest = lower then lower + 1 else lower
  if readsBack units place nearest then some nearest
  else if readsBack units place other then some other
  else none

/-- The number of digits before the point, or minus the zeros behind it. -/
def magnitude (units : Nat) : Int :=
  (Nat.toDigits 10 (units * Nat.pow 10 324 / unitsOfOne)).length - 324

/-- Seventeen digits always suffice. -/
def shortest (units : Nat) : Nat × Int :=
  let size := magnitude units
  let candidate (digits : Nat) : Option (Nat × Int) :=
    let place := size - (digits + 1 : Nat)
    (neighbour? units place).map (·, place)
  ((List.range 17).findSome? candidate).getD (0, 0)

/-- The zeros at the end are dropped. -/
def dropZeros (digits : Text) : Text :=
  (digits.reverse.dropWhile (· == '0')).reverse

/-- The exponents from minus four to fifteen are written with a point in place. -/
def isPositional (exponent : Int) : Bool :=
  -4 ≤ exponent && exponent < 16

/-- At least one digit follows the point. -/
def positional (digits : Text) (exponent : Int) : Text :=
  if exponent < 0 then
    ['0', '.'] ++ List.replicate ((-exponent).toNat - 1) '0' ++ digits
  else
    let whole := exponent.toNat + 1
    if digits.length ≤ whole then
      digits ++ List.replicate (whole - digits.length) '0' ++ ['.', '0']
    else digits.take whole ++ '.' :: digits.drop whole

/-- The exponent has a sign and at least two digits. -/
def exponential (digits : Text) (exponent : Int) : Text :=
  let fraction := if digits.length ≤ 1 then [] else '.' :: digits.drop 1
  digits.take 1 ++ fraction ++ ['e', if exponent < 0 then '-' else '+'] ++
    Text.ofNatPadded 2 exponent.natAbs

/-- The written form of a positive number. -/
def displayUnits (units : Nat) : Text :=
  let (coefficient, place) := shortest units
  let digits := Text.ofNat coefficient
  let exponent := place + digits.length - 1
  let significant := dropZeros digits
  if isPositional exponent then positional significant exponent
  else exponential significant exponent

/-- Zero keeps its sign. -/
def display : Binary64 → Text
  | .nan => ['n', 'a', 'n']
  | .infinite negative => (if negative then ['-'] else []) ++ ['i', 'n', 'f']
  | .finite negative units =>
      (if negative then ['-'] else []) ++
        if units = 0 then ['0', '.', '0'] else displayUnits units

end UriExpansion.Binary64
