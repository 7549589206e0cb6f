import WorkItemQuery.Span

/-!
# Parse trees

A parsed query. A recovering parser may leave a child out, so any child can be absent and any rule
can lack the parts it should have.
-/

namespace WorkItemQuery

structure Token where
  kind : String
  text : String
  span : Span
  deriving DecidableEq

/-- The position that the parser recorded for a rule as a whole, which may lack parts. -/
inductive Extent where
  | absent
  | incomplete
  | complete (span : Span)
  deriving DecidableEq

mutual

structure Tree where
  rule : String
  children : List Node
  extent : Extent

inductive Node where
  | absent
  | leaf (token : Token)
  | branch (tree : Tree)

end

namespace Node

instance : Inhabited Node := ⟨.absent⟩

def token? : Node → Option Token
  | .leaf token => some token
  | _ => none

def tree? : Node → Option Tree
  | .branch tree => some tree
  | _ => none

end Node

/-- The rules whose nodes are checked as conditions. -/
def isConditionRule (rule : String) : Bool :=
  rule == "condition" || rule == "link_condition"

mutual

/-- The tokens below a node, in source order. -/
def Node.tokens : Node → List Token
  | .absent => []
  | .leaf token => [token]
  | .branch tree => tree.tokens

def Tree.tokens : Tree → List Token
  | ⟨_, children, _⟩ => tokensOf children

def tokensOf : List Node → List Token
  | [] => []
  | node :: rest => node.tokens ++ tokensOf rest

end

mutual

/-- The outermost conditions of a node, in source order: a condition inside another one is not
counted. -/
def Node.conditions : Node → List Tree
  | .absent => []
  | .leaf _ => []
  | .branch tree => tree.conditions

def Tree.conditions : Tree → List Tree
  | ⟨rule, children, extent⟩ =>
      if isConditionRule rule then [⟨rule, children, extent⟩] else conditionsOf children

def conditionsOf : List Node → List Tree
  | [] => []
  | node :: rest => node.conditions ++ conditionsOf rest

end

theorem Tree.tokens_eq (tree : Tree) : tree.tokens = tokensOf tree.children := by
  obtain ⟨rule, children, extent⟩ := tree
  rw [Tree.tokens]

theorem Tree.conditions_eq (tree : Tree) :
    tree.conditions =
      if isConditionRule tree.rule then [tree] else conditionsOf tree.children := by
  obtain ⟨rule, children, extent⟩ := tree
  rw [Tree.conditions]

theorem tokensOf_eq_flatMap (nodes : List Node) : tokensOf nodes = nodes.flatMap Node.tokens := by
  induction nodes with
  | nil => rfl
  | cons node rest ih => rw [tokensOf, ih, List.flatMap_cons]

theorem conditionsOf_eq_flatMap (nodes : List Node) :
    conditionsOf nodes = nodes.flatMap Node.conditions := by
  induction nodes with
  | nil => rfl
  | cons node rest ih => rw [conditionsOf, ih, List.flatMap_cons]

end WorkItemQuery
