import Mathlib.Data.List.Basic
import Mathlib.Data.List.Flatten
import WorkItemQuery.Proofs.Tree.Outermost
import WorkItemQuery.Proofs.Tree.Parts

/-!
# Tokens of the parts of a tree

The tokens of a part are among those of the tree, in the order in which they stand there; the parts
that are taken one after the other have their tokens one after the other.
-/

namespace WorkItemQuery

variable {tree part : Tree} {child : Node}

theorem child_tokens_sublist (member : child ∈ tree.children) :
    child.tokens.Sublist tree.tokens := by
  rw [Tree.tokens_eq, tokensOf_eq_flatMap]
  exact List.sublist_flatten_of_mem (List.mem_map_of_mem member)

theorem own_token_mem {token : Token} (member : .leaf token ∈ tree.children) :
    token ∈ tree.tokens :=
  (child_tokens_sublist member).subset (List.mem_singleton_self token)

theorem FirstChild.tokens_sublist {rule : String} (first : FirstChild tree rule part) :
    part.tokens.Sublist tree.tokens :=
  child_tokens_sublist first.mem

theorem values_tokens_sublist (list : Tree) :
    (list.values.flatMap Tree.tokens).Sublist list.tokens := by
  have subtrees : (list.subtrees.flatMap Tree.tokens).Sublist list.tokens := by
    rw [Tree.subtrees, List.filterMap_eq_flatMap_toList, List.flatMap_assoc, Tree.tokens_eq,
      tokensOf_eq_flatMap]
    refine List.Sublist.flatMap_right _ fun node _ => ?_
    cases node with
    | absent => exact List.nil_sublist _
    | leaf token => exact List.nil_sublist _
    | branch tree => simp [Node.tree?, Node.tokens]
  exact (List.filter_sublist.flatMap Tree.tokens).trans subtrees

theorem operandAmong_mem {nodes : List Node} {operand : Operand}
    (read : Tree.operandAmong nodes = .ok (some operand)) : operand.node ∈ nodes := by
  induction nodes with
  | nil => cases read
  | cons node rest ih =>
      cases node with
      | absent => cases read
      | leaf token =>
          cases read
          exact List.mem_cons_self ..
      | branch tree =>
          rw [Tree.operandAmong] at read
          split at read
          · cases read
            exact List.mem_cons_self ..
          · exact List.mem_cons_of_mem _ (ih read)

theorem conditions_tokens_sublist (node : Node) :
    (node.conditions.flatMap Tree.tokens).Sublist node.tokens := by
  induction node using Node.childInduction with
  | absent => exact List.nil_sublist _
  | leaf token => exact List.nil_sublist _
  | branch tree ih =>
      rw [Node.conditions, Tree.conditions_eq, Node.tokens]
      split
      case isTrue _ => simp
      case isFalse _ =>
        rw [conditionsOf_eq_flatMap, Tree.tokens_eq, tokensOf_eq_flatMap, List.flatMap_assoc]
        exact List.Sublist.flatMap_right _ ih

end WorkItemQuery
