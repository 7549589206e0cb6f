/-!
# Binary numbers

The numbers that 64 bits hold: 53 significant binary digits, down to a smallest unit, and two
infinities. A finite one is a whole number of units, so it is kept as its sign and its units; zero
has both signs. A decimal stands for the nearest binary number.
-/

namespace WorkItemQuery

/-- How many of the smallest numbers above zero make one. -/
def unitsPerOne : Nat :=
  Nat.pow 2 1074

/-- The number `digits * 10 ^ exponent`. -/
structure Decimal where
  digits : Nat
  exponent : Int
  deriving DecidableEq

inductive Binary64 where
  | finite (negative : Bool) (units : Nat)
  | infinite (negative : Bool)
  deriving DecidableEq

/-- The whole number nearest to a quotient, and halfway between two the even one. -/
def roundedQuotient (numerator denominator : Nat) : Nat :=
  let quotient := numerator / denominator
  let twice := 2 * (numerator % denominator)
  if twice < denominator ∨ (twice = denominator ∧ quotient % 2 = 0) then quotient
  else quotient + 1

theorem roundedQuotient_mul (whole : Nat) {denominator : Nat} (positive : 0 < denominator) :
    roundedQuotient (whole * denominator) denominator = whole := by
  simp [roundedQuotient, positive]

namespace Decimal

/-- The number of units as a quotient: what is divided. -/
def numerator (decimal : Decimal) : Nat :=
  decimal.digits * Nat.pow 10 decimal.exponent.toNat * unitsPerOne

/-- The number of units as a quotient: what it is divided by. -/
def denominator (decimal : Decimal) : Nat :=
  Nat.pow 10 (-decimal.exponent).toNat

/-- The nearest number of units with at most 53 significant binary digits. -/
def nearestUnits (decimal : Decimal) : Nat :=
  let grain := Nat.pow 2 (Nat.log2 (decimal.numerator / decimal.denominator) - 52)
  roundedQuotient decimal.numerator (decimal.denominator * grain) * grain

/-- A decimal is less than this power of ten, and unless it is zero not less than a tenth of it. -/
def magnitude (decimal : Decimal) : Int :=
  (Nat.repr decimal.digits).length + decimal.exponent

end Decimal

namespace Binary64

/-- What a finite number stays below, in units. -/
def unitLimit : Nat :=
  Nat.pow 2 2098

def ofUnits (negative : Bool) (units : Nat) : Binary64 :=
  if units < unitLimit then .finite negative units else .infinite negative

/-- The binary number for a decimal. Below `10 ^ -324` every decimal is nearest to zero, and from
`10 ^ 309` on there is nothing finite. -/
def ofDecimal (negative : Bool) (decimal : Decimal) : Binary64 :=
  if decimal.digits = 0 ∨ decimal.magnitude ≤ -324 then .finite negative 0
  else if 309 < decimal.magnitude then .infinite negative
  else ofUnits negative decimal.nearestUnits

end Binary64

/-- The place of a number on the line, in units. Whole numbers and binary numbers share the line. -/
inductive Quantity where
  | units (count : Int)
  | infinite (negative : Bool)
  deriving DecidableEq

def Quantity.ofInt (value : Int) : Quantity :=
  .units (value * unitsPerOne)

def Binary64.quantity : Binary64 → Quantity
  | .finite negative units => .units (if negative then -units else units)
  | .infinite negative => .infinite negative

end WorkItemQuery
