import WorkItemQuery.AnalysisError
import WorkItemQuery.Tree

/-!
# Diagnostics

A message about a part of the query. A token spans its own positions and a tree spans its tokens,
from the start of the first to the end of the last; a tree without tokens falls back on the position
that was recorded for it.
-/

namespace WorkItemQuery

/-- From the start of one span to the end of another. -/
def Span.join (first last : Span) : Span where
  start := first.start
  stop := last.stop
  line := first.line
  column := first.column
  endLine := last.endLine
  endColumn := last.endColumn

def Tree.span (tree : Tree) : Except AnalysisError Span :=
  match tree.tokens with
  | first :: rest => .ok (first.span.join ((first :: rest).getLast (by simp)).span)
  | [] =>
      match tree.extent with
      | .absent => .error (.noPosition tree.rule)
      | .incomplete => .error .partialPosition
      | .complete span => .ok span

def Node.span : Node → Except AnalysisError Span
  | .absent => .error .wrongNode
  | .leaf token => .ok token.span
  | .branch tree => tree.span

structure Diagnostic where
  span : Span
  message : String
  deriving DecidableEq

namespace Diagnostic

def atToken (token : Token) (message : String) : Diagnostic where
  span := token.span
  message

def atNode (node : Node) (message : String) : Except AnalysisError Diagnostic :=
  node.span.map ({ span := ·, message })

end Diagnostic

end WorkItemQuery
