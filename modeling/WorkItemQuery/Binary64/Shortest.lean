import WorkItemQuery.Binary64

/-!
# Shortest decimals

The decimal that a binary number is written as: of all that stand for it one with the fewest
digits, and of those the nearest. The fewer digits a decimal has, the coarser is the grid that it
lies on, so the coarsest grid with such a decimal gives it.
-/

namespace WorkItemQuery

/-- The two points of a decimal grid on either side of a number of units, the nearer one first;
halfway between them, the one whose last digit is even. -/
def Decimal.around (units : Nat) (exponent : Int) : List Decimal :=
  let numerator := units * Nat.pow 10 (-exponent).toNat
  let denominator := unitsPerOne * Nat.pow 10 exponent.toNat
  let below := numerator / denominator
  if roundedQuotient numerator denominator = below then [⟨below, exponent⟩, ⟨below + 1, exponent⟩]
  else [⟨below + 1, exponent⟩, ⟨below, exponent⟩]

namespace Binary64

/-- The exponent of a grid that is coarser than the number is large. The logarithm of two is a
little below `30103 / 100000`. -/
def coarsestExponent (units : Nat) : Int :=
  ((Nat.log2 units : Int) - 1073) * 30103 / 100000 + 2

/-- The decimal on the coarsest of the grids in which one of the two points around the number stands
for it; seventeen significant digits are always enough. -/
def shortest? (units : Nat) : Option Decimal :=
  (List.range 24).findSome? fun (finer : Nat) =>
    (Decimal.around units (coarsestExponent units - finer)).find? (·.nearestUnits = units)

/-- The decimal that is a number of units exactly. -/
def exactDecimal (units : Nat) : Decimal where
  digits := units * Nat.pow 5 1074
  exponent := -1074

def shortest (units : Nat) : Decimal :=
  if units = 0 then ⟨0, 0⟩ else (shortest? units).getD (exactDecimal units)

theorem nearestUnits_of_shortest? {units : Nat} {decimal : Decimal}
    (found : shortest? units = some decimal) : decimal.nearestUnits = units := by
  obtain ⟨finer, _, selected⟩ := List.exists_of_findSome?_eq_some found
  simpa using List.find?_some selected

end Binary64

end WorkItemQuery
