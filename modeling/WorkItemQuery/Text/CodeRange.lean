namespace WorkItemQuery.Text

/-- The code points from `first` to `last`, both included. -/
structure CodeRange where
  first : Nat
  last : Nat

def CodeRange.covers (range : CodeRange) (code : Nat) : Bool :=
  range.first ≤ code && code ≤ range.last

/-- Whether a character lies in one of the ranges of a table. -/
def inRanges (table : List CodeRange) (c : Char) : Bool :=
  table.any (·.covers c.toNat)

theorem inRanges_iff {table : List CodeRange} {c : Char} :
    inRanges table c = true ↔
      ∃ range ∈ table, range.first ≤ c.toNat ∧ c.toNat ≤ range.last := by
  simp [inRanges, CodeRange.covers]

end WorkItemQuery.Text
