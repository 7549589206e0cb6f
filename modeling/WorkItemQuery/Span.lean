/-!
# Spans

A range of the query text. Spans are ordered by their positions from the left; the first pair of
positions that differ decides, and where one of the two is missing the spans have no order.
-/

namespace WorkItemQuery

/-- Offsets count from zero with an exclusive end; lines and columns count from one. -/
structure Span where
  start : Option Int
  stop : Option Int
  line : Option Int
  column : Option Int
  endLine : Option Int
  endColumn : Option Int
  deriving DecidableEq

namespace Span

def positions (span : Span) : List (Option Int) :=
  [span.start, span.stop, span.line, span.column, span.endLine, span.endColumn]

def comparePositions? : List (Option Int) → List (Option Int) → Option Ordering
  | left :: lefts, right :: rights =>
      if left = right then comparePositions? lefts rights
      else
        match left, right with
        | some left, some right => some (compare left right)
        | _, _ => none
  | _, _ => some .eq

def compare? (left right : Span) : Option Ordering :=
  comparePositions? left.positions right.positions

def lt? (left right : Span) : Option Bool :=
  (compare? left right).map Ordering.isLT

def le? (left right : Span) : Option Bool :=
  (compare? left right).map Ordering.isLE

def gt? (left right : Span) : Option Bool :=
  (compare? left right).map Ordering.isGT

def ge? (left right : Span) : Option Bool :=
  (compare? left right).map Ordering.isGE

/-- Puts a span before the first one that is not smaller. -/
def insert? (span : Span) : List Span → Option (List Span)
  | [] => some [span]
  | first :: rest =>
      match compare? span first with
      | none => none
      | some .gt => (insert? span rest).map (first :: ·)
      | some _ => some (span :: first :: rest)

/-- The spans in ascending order, unless two of them have no order. -/
def sort? : List Span → Option (List Span)
  | [] => some []
  | span :: rest => (sort? rest).bind (insert? span)

end Span

end WorkItemQuery
