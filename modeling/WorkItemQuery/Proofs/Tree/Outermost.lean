import WorkItemQuery.Proofs.Tree.First
import WorkItemQuery.Tree

/-!
# Outermost conditions

The conditions of a query that stand in no other condition, and trees that lack no child. The
conditions that a query is checked by are those of its trees, taken depth first, that are conditions
and have no condition above them.
-/

namespace WorkItemQuery

/-- What passes from the children of a tree to the tree holds of every node. -/
@[elab_as_elim]
theorem Node.childInduction {motive : Node → Prop} (absent : motive .absent)
    (leaf : ∀ token, motive (.leaf token))
    (branch : ∀ tree : Tree, (∀ child ∈ tree.children, motive child) → motive (.branch tree))
    (node : Node) : motive node := by
  refine @Node.rec (fun tree => ∀ child ∈ tree.children, motive child) motive
    (fun nodes => ∀ child ∈ nodes, motive child) ?_ absent leaf branch ?_ ?_ node
  · intro rule children extent below
    exact below
  · intro child member
    cases member
  · intro first rest here later child member
    rcases List.mem_cons.mp member with same | below
    · exact same ▸ here
    · exact later child below

/-- A condition below a node that no other condition contains. -/
inductive Outermost : Node → Tree → Prop where
  | here {tree : Tree} (checked : isConditionRule tree.rule) : Outermost (.branch tree) tree
  | inside {tree condition : Tree} {child : Node} (outer : ¬ isConditionRule tree.rule)
      (member : child ∈ tree.children) (inner : Outermost child condition) :
      Outermost (.branch tree) condition

theorem Node.outermost_of_mem {condition : Tree} (node : Node)
    (member : condition ∈ node.conditions) : Outermost node condition := by
  induction node using Node.childInduction with
  | absent => cases member
  | leaf token => cases member
  | branch tree ih =>
      rw [Node.conditions, Tree.conditions_eq] at member
      split at member
      case isTrue checked =>
        rw [List.mem_singleton.mp member]
        exact .here checked
      case isFalse outer =>
        rw [conditionsOf_eq_flatMap] at member
        obtain ⟨child, below, inner⟩ := List.mem_flatMap.mp member
        exact .inside outer below (ih child below inner)

theorem Outermost.mem_conditions {node : Node} {condition : Tree}
    (outermost : Outermost node condition) : condition ∈ node.conditions := by
  induction outermost with
  | here checked =>
      rw [Node.conditions, Tree.conditions_eq, if_pos checked]
      exact List.mem_singleton_self _
  | inside outer member _ ih =>
      rw [Node.conditions, Tree.conditions_eq, if_neg outer, conditionsOf_eq_flatMap]
      exact List.mem_flatMap.mpr ⟨_, member, ih⟩

theorem mem_conditions_iff_outermost {node : Node} {condition : Tree} :
    condition ∈ node.conditions ↔ Outermost node condition :=
  ⟨node.outermost_of_mem, Outermost.mem_conditions⟩

theorem Outermost.isConditionRule {node : Node} {condition : Tree}
    (outermost : Outermost node condition) : isConditionRule condition.rule = true := by
  induction outermost with
  | here checked => exact checked
  | inside _ _ _ ih => exact ih

/-- A tree of a query and the rules of the trees above it, nearest first. -/
structure Descendant where
  ancestors : List String
  tree : Tree

def Descendant.isOutermostCondition (descendant : Descendant) : Bool :=
  isConditionRule descendant.tree.rule && !descendant.ancestors.any isConditionRule

mutual

/-- The trees of a node, depth first and from left to right. -/
def Node.descendants (ancestors : List String) : Node → List Descendant
  | .absent => []
  | .leaf _ => []
  | .branch tree => tree.descendants ancestors

def Tree.descendants (ancestors : List String) : Tree → List Descendant
  | ⟨rule, children, extent⟩ =>
      ⟨ancestors, ⟨rule, children, extent⟩⟩ :: descendantsOf (rule :: ancestors) children

def descendantsOf (ancestors : List String) : List Node → List Descendant
  | [] => []
  | node :: rest => node.descendants ancestors ++ descendantsOf ancestors rest

end

def Tree.outermostConditions (query : Tree) : List Tree :=
  ((query.descendants []).filter Descendant.isOutermostCondition).map Descendant.tree

mutual

theorem Node.no_outermost_below {ancestors : List String}
    (covered : ancestors.any isConditionRule = true) (node : Node) :
    (node.descendants ancestors).filter Descendant.isOutermostCondition = [] := by
  cases node with
  | absent => rfl
  | leaf token => rfl
  | branch tree => exact tree.no_outermost_below covered

theorem Tree.no_outermost_below {ancestors : List String}
    (covered : ancestors.any isConditionRule = true) (tree : Tree) :
    (tree.descendants ancestors).filter Descendant.isOutermostCondition = [] := by
  obtain ⟨rule, children, extent⟩ := tree
  have below : (rule :: ancestors).any isConditionRule = true := by simp [covered]
  have here : Descendant.isOutermostCondition ⟨ancestors, ⟨rule, children, extent⟩⟩ = false := by
    simp [Descendant.isOutermostCondition, covered]
  rw [Tree.descendants, List.filter_cons_of_neg (by simp [here])]
  exact no_outermost_among below children

theorem no_outermost_among {ancestors : List String}
    (covered : ancestors.any isConditionRule = true) (nodes : List Node) :
    (descendantsOf ancestors nodes).filter Descendant.isOutermostCondition = [] := by
  cases nodes with
  | nil => rfl
  | cons node rest =>
      rw [descendantsOf, List.filter_append, node.no_outermost_below covered,
        no_outermost_among covered rest, List.append_nil]

end

mutual

theorem Node.outermost_eq_conditions {ancestors : List String}
    (uncovered : ancestors.any isConditionRule = false) (node : Node) :
    ((node.descendants ancestors).filter Descendant.isOutermostCondition).map Descendant.tree =
      node.conditions := by
  cases node with
  | absent => rfl
  | leaf token => rfl
  | branch tree => exact tree.outermost_eq_conditions uncovered

theorem Tree.outermost_eq_conditions {ancestors : List String}
    (uncovered : ancestors.any isConditionRule = false) (tree : Tree) :
    ((tree.descendants ancestors).filter Descendant.isOutermostCondition).map Descendant.tree =
      tree.conditions := by
  obtain ⟨rule, children, extent⟩ := tree
  have here : Descendant.isOutermostCondition ⟨ancestors, ⟨rule, children, extent⟩⟩ =
      isConditionRule rule := by simp [Descendant.isOutermostCondition, uncovered]
  rw [Tree.descendants, Tree.conditions]
  split
  case isTrue checked =>
    have below : (rule :: ancestors).any isConditionRule = true := by simp [checked]
    rw [List.filter_cons_of_pos (here.trans checked), no_outermost_among below]
    rfl
  case isFalse outer =>
    have below : (rule :: ancestors).any isConditionRule = false := by simp [outer, uncovered]
    rw [List.filter_cons_of_neg (by rw [here]; exact outer)]
    exact outermost_among_eq_conditions below children

theorem outermost_among_eq_conditions {ancestors : List String}
    (uncovered : ancestors.any isConditionRule = false) (nodes : List Node) :
    ((descendantsOf ancestors nodes).filter Descendant.isOutermostCondition).map Descendant.tree =
      conditionsOf nodes := by
  cases nodes with
  | nil => rfl
  | cons node rest =>
      rw [descendantsOf, List.filter_append, List.map_append, conditionsOf,
        node.outermost_eq_conditions uncovered, outermost_among_eq_conditions uncovered rest]

end

theorem Tree.outermostConditions_eq (query : Tree) : query.outermostConditions = query.conditions :=
  query.outermost_eq_conditions rfl

/-- No child is absent, at any depth. -/
inductive Node.Whole : Node → Prop where
  | leaf (token : Token) : Whole (.leaf token)
  | branch {tree : Tree} (children : ∀ child ∈ tree.children, child.Whole) : Whole (.branch tree)

theorem Node.Whole.child {tree : Tree} {child : Node} (whole : Whole (.branch tree))
    (member : child ∈ tree.children) : child.Whole := by
  cases whole with
  | branch children => exact children child member

theorem Node.Whole.absent_not_mem {tree : Tree} (whole : Whole (.branch tree)) :
    Node.absent ∉ tree.children := by
  intro member
  cases whole.child member

theorem Outermost.whole {node : Node} {condition : Tree} (outermost : Outermost node condition)
    (whole : node.Whole) : Node.Whole (.branch condition) := by
  induction outermost with
  | here _ => exact whole
  | inside _ member _ ih => exact ih (whole.child member)

end WorkItemQuery
