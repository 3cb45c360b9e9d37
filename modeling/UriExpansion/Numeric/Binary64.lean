/- Binary numbers with 53 significant bits, by arithmetic on natural numbers alone. -/

namespace UriExpansion

/-- A finite number counts multiples of two to the power of minus 1074. -/
inductive Binary64 where
  | nan
  | infinite (negative : Bool)
  | finite (negative : Bool) (units : Nat)
  deriving DecidableEq, Repr

namespace Binary64

/-- One is this many units. -/
def unitsOfOne : Nat := Nat.pow 2 1074

/-- The finite numbers lie below this many units. -/
def unitsBound : Nat := Nat.pow 2 2098

/-- A half is rounded to the even neighbour. -/
def roundHalfEven (numerator denominator : Nat) : Nat :=
  let quotient := numerator / denominator
  let twice := 2 * (numerator % denominator)
  if twice < denominator ∨ (twice = denominator ∧ quotient % 2 = 0) then quotient
  else quotient + 1

/-- The last significant bit of a number stands this many places above one unit. -/
def gapExponent (units : Nat) : Nat :=
  units.log2 - 52

/-- A fraction is rounded to the nearest binary number. -/
def ofRatio (negative : Bool) (numerator denominator : Nat) : Binary64 :=
  let scaled := numerator * unitsOfOne
  let gap := Nat.pow 2 (gapExponent (scaled / denominator))
  let units := roundHalfEven scaled (denominator * gap) * gap
  if units < unitsBound then .finite negative units else .infinite negative

/-- The count of the digits settles powers that are far out of range. -/
def ofDecimal (negative : Bool) (coefficient : Nat) (exponent : Int) : Binary64 :=
  let magnitude := (Nat.toDigits 10 coefficient).length + exponent
  if coefficient = 0 ∨ magnitude < -330 then .finite negative 0
  else if 310 < magnitude then .infinite negative
  else ofRatio negative (coefficient * Nat.pow 10 exponent.toNat) (Nat.pow 10 (-exponent).toNat)

/-- The number with the other sign. -/
def negate : Binary64 → Binary64
  | .nan => .nan
  | .infinite negative => .infinite !negative
  | .finite negative units => .finite (!negative) units

end Binary64

end UriExpansion
