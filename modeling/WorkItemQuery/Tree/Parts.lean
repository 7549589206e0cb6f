import WorkItemQuery.AnalysisError
import WorkItemQuery.Operator
import WorkItemQuery.Tree

/-!
# Parts of a condition

How the parts of a condition are found in its tree. A `field` names itself by an identifier token,
an `operator` or `in_operator` writes its operator as one of its own tokens, and a `value` wraps one
operand: a literal, a variable or a field.
-/

namespace WorkItemQuery

namespace Token

def isIdentifier (token : Token) : Bool :=
  token.kind == "IDENTIFIER"

def isVariable (token : Token) : Bool :=
  token.kind == "VARIABLE"

def literalKind? (token : Token) : Option ValueKind :=
  ValueKind.ofTerminal? token.kind

def operator? (token : Token) : Option (Token × Operator) :=
  (Operator.ofTerminal? token.kind).map (token, ·)

end Token

inductive Operand where
  | scalar (token : Token)
  | field (tree : Tree)

namespace Tree

def isField (tree : Tree) : Bool :=
  tree.rule == "field"

def subtrees (tree : Tree) : List Tree :=
  tree.children.filterMap Node.tree?

def ownTokens (tree : Tree) : List Token :=
  tree.children.filterMap Node.token?

def child? (tree : Tree) (rule : String) : Option Tree :=
  tree.subtrees.find? (·.rule == rule)

/-- The token that names a field, at any depth. -/
def identifier? (tree : Tree) : Option Token :=
  tree.tokens.find? Token.isIdentifier

/-- The operator of an operator node. A negation before it does not change it. -/
def operator? (tree : Tree) : Option (Token × Operator) :=
  tree.ownTokens.findSome? Token.operator?

/-- The first token or field among the children; an absent child before it is an error. -/
def operandAmong : List Node → Except AnalysisError (Option Operand)
  | [] => .ok none
  | .absent :: _ => .error .wrongNode
  | .leaf token :: _ => .ok (some (.scalar token))
  | .branch tree :: rest => if tree.isField then .ok (some (.field tree)) else operandAmong rest

def operand (tree : Tree) : Except AnalysisError (Option Operand) :=
  operandAmong tree.children

def values (tree : Tree) : List Tree :=
  tree.subtrees.filter (·.rule == "value")

end Tree

namespace Operand

def side : Operand → RightSide
  | .scalar _ => .literal
  | .field _ => .field

def node : Operand → Node
  | .scalar token => .leaf token
  | .field tree => .branch tree

end Operand

namespace Node

def asTree : Node → Except AnalysisError Tree
  | .branch tree => .ok tree
  | _ => .error .wrongNode

def asToken : Node → Except AnalysisError Token
  | .leaf token => .ok token
  | _ => .error .wrongNode

def isField : Node → Bool
  | .branch tree => tree.isField
  | _ => false

def isVariable : Node → Bool
  | .leaf token => token.isVariable
  | _ => false

end Node

end WorkItemQuery
