import Mathlib.Data.List.Basic
import WorkItemQuery.Proofs.Condition

/-!
# Refilled parts

A tree in which the first child of one rule has got other children. The part is still the first
child of its rule, and nothing changes in what the tree has of other rules.
-/

namespace WorkItemQuery

/-- A subtree of the rule, with other children; of other nodes nothing. -/
def Node.refill? (rule : String) (children : List Node) : Node → Option Node
  | .branch tree => if tree.rule = rule then some (.branch { tree with children }) else none
  | _ => none

theorem Node.refill?_of_rule {rule : String} {part : Tree} (same : part.rule = rule)
    (children : List Node) :
    Node.refill? rule children (.branch part) = some (.branch { part with children }) :=
  if_pos same

theorem Node.refill?_of_other {rule : String} {part : Tree} (distinct : part.rule ≠ rule)
    (children : List Node) : Node.refill? rule children (.branch part) = none :=
  if_neg distinct

/-- The tree with other children for its first child of the rule. -/
def Tree.refill (tree : Tree) (rule : String) (children : List Node) : Tree :=
  { tree with children := tree.children.replaceF (Node.refill? rule children) }

namespace Tree

variable {tree part : Tree} {rule other : String} {children : List Node}

theorem child?_cons_branch (rule container : String) (rest : List Node) (extent : Extent) :
    child? ⟨container, .branch part :: rest, extent⟩ rule =
      if part.rule = rule then some part else child? ⟨container, rest, extent⟩ rule := by
  by_cases same : part.rule = rule <;> simp [child?, subtrees, Node.tree?, same]

theorem child?_refill : (tree.refill rule children).child? rule =
    (tree.child? rule).map ({ · with children }) := by
  obtain ⟨container, nodes, extent⟩ := tree
  simp only [refill]
  induction nodes with
  | nil => rfl
  | cons node rest ih =>
      cases node with
      | absent => exact ih
      | leaf token => exact ih
      | branch part =>
          by_cases same : part.rule = rule
          · rw [List.replaceF_cons_of_some _ (Node.refill?_of_rule same _), child?_cons_branch,
              child?_cons_branch, if_pos same, if_pos same, Option.map_some]
          · rw [List.replaceF_cons_of_none _ (Node.refill?_of_other same _), child?_cons_branch,
              child?_cons_branch, if_neg same, if_neg same, ih]

theorem child?_refill_of_ne (distinct : other ≠ rule) :
    (tree.refill rule children).child? other = tree.child? other := by
  obtain ⟨container, nodes, extent⟩ := tree
  simp only [refill]
  induction nodes with
  | nil => rfl
  | cons node rest ih =>
      cases node with
      | absent => exact ih
      | leaf token => exact ih
      | branch part =>
          by_cases same : part.rule = rule
          · -- the refilled part is passed over by a search for another rule
            have skipped : part.rule ≠ other := same ▸ distinct.symm
            rw [List.replaceF_cons_of_some _ (Node.refill?_of_rule same _), child?_cons_branch,
              child?_cons_branch, if_neg skipped, if_neg skipped]
          · rw [List.replaceF_cons_of_none _ (Node.refill?_of_other same _), child?_cons_branch,
              child?_cons_branch, ih]

theorem subject?_refill_of_ne (distinct : "field" ≠ rule) (lookup : FieldLookup) :
    (tree.refill rule children).subject? lookup = tree.subject? lookup := by
  rw [subject?, child?_refill_of_ne distinct, subject?]

theorem values_append (first second : List Node) :
    values { tree with children := first ++ second } =
      values { tree with children := first } ++ values { tree with children := second } := by
  simp only [values, subtrees, List.filterMap_append, List.filter_append]

end Tree

theorem FirstChild.refill {tree part : Tree} {rule : String}
    (first : FirstChild tree rule part) (children : List Node) :
    FirstChild (tree.refill rule children) rule { part with children } := by
  rw [← Tree.child?_eq_some_iff, Tree.child?_refill, Tree.child?_eq_some_iff.mpr first]
  rfl

theorem firstChild_refill_iff {tree part : Tree} {rule other : String} {children : List Node}
    (distinct : other ≠ rule) :
    FirstChild (tree.refill rule children) other part ↔ FirstChild tree other part := by
  rw [← Tree.child?_eq_some_iff, Tree.child?_refill_of_ne distinct, Tree.child?_eq_some_iff]

theorem lacks_refill_iff {tree : Tree} {rule other : String} {children : List Node}
    (distinct : other ≠ rule) : Lacks (tree.refill rule children) other ↔ Lacks tree other := by
  rw [← Tree.child?_eq_none_iff, Tree.child?_refill_of_ne distinct, Tree.child?_eq_none_iff]

end WorkItemQuery
