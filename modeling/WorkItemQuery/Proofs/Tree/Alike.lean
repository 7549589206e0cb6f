import Mathlib.Data.List.Forall2
import WorkItemQuery.Proofs.Except
import WorkItemQuery.Proofs.Tree.Outermost
import WorkItemQuery.Proofs.Tree.Parts

/-!
# Trees of one shape

Two trees of one shape differ in nothing but their tokens, where one token stands for another, in
which of the condition rules a condition has, and in the positions recorded for their rules. What is
found in one of them is found in the other, at the same place.
-/

namespace WorkItemQuery

section Found

variable {α β : Type} {related : α → β → Prop} {lefts : List α} {rights : List β}

theorem rel_find? {test : α → Bool} {other : β → Bool}
    (decided : ∀ left right, related left right → test left = other right)
    (items : List.Forall₂ related lefts rights) :
    Option.Rel related (lefts.find? test) (rights.find? other) := by
  induction items with
  | nil => exact .none
  | @cons left right _ _ first _ ih =>
      rw [List.find?_cons, List.find?_cons, ← decided left right first]
      cases test left with
      | true => exact .some first
      | false => exact ih

theorem rel_findSome? {γ δ : Type} {results : γ → δ → Prop} {search : α → Option γ}
    {other : β → Option δ}
    (searched : ∀ left right, related left right →
      Option.Rel results (search left) (other right))
    (items : List.Forall₂ related lefts rights) :
    Option.Rel results (lefts.findSome? search) (rights.findSome? other) := by
  induction items with
  | nil => exact .none
  | @cons left right _ _ first _ ih =>
      have here := searched left right first
      rw [List.findSome?_cons, List.findSome?_cons]
      generalize search left = found, other right = another at here
      cases here with
      | none => exact ih
      | some same => exact .some same

end Found

/-- Rules that are the same, or that are both rules of conditions. -/
def SameRule (left right : String) : Prop :=
  left = right ∨ (isConditionRule left = true ∧ isConditionRule right = true)

theorem SameRule.isConditionRule {left right : String} (same : SameRule left right) :
    isConditionRule left = isConditionRule right := by
  rcases same with rfl | ⟨first, second⟩
  · rfl
  · rw [first, second]

/-- A rule that is no condition's is carried by both or by neither. -/
theorem SameRule.beq {left right rule : String} (same : SameRule left right)
    (outer : WorkItemQuery.isConditionRule rule = false) : (left == rule) = (right == rule) := by
  rcases same with rfl | ⟨first, second⟩
  · rfl
  · have other {condition : String} (checked : WorkItemQuery.isConditionRule condition = true) :
        (condition == rule) = false := by
      rw [beq_eq_false_iff_ne]
      intro carried
      rw [carried, outer] at checked
      cases checked
    rw [other first, other second]

inductive Node.Alike (same : Token → Token → Prop) : Node → Node → Prop where
  | absent : Alike same .absent .absent
  | leaf {left right : Token} (tokens : same left right) : Alike same (.leaf left) (.leaf right)
  | branch {left right : Tree} (rules : SameRule left.rule right.rule)
      (children : List.Forall₂ (Alike same) left.children right.children) :
      Alike same (.branch left) (.branch right)

def Tree.Alike (same : Token → Token → Prop) (left right : Tree) : Prop :=
  Node.Alike same (.branch left) (.branch right)

inductive Operand.Alike (same : Token → Token → Prop) : Operand → Operand → Prop where
  | scalar {left right : Token} (tokens : same left right) :
      Alike same (.scalar left) (.scalar right)
  | field {left right : Tree} (trees : left.Alike same right) :
      Alike same (.field left) (.field right)

variable {same : Token → Token → Prop}

theorem Node.Alike.refl (reflexive : ∀ token, same token token) (node : Node) :
    node.Alike same node := by
  induction node using Node.childInduction with
  | absent => exact .absent
  | leaf token => exact .leaf (reflexive token)
  | branch tree ih => exact .branch (.inl rfl) (List.forall₂_same.mpr ih)

/-- What follows for nodes from their children follows for the nodes of alike trees. -/
@[elab_as_elim]
theorem Node.Alike.induct {motive : Node → Node → Prop} (absent : motive .absent .absent)
    (leaf : ∀ left right, same left right → motive (.leaf left) (.leaf right))
    (branch : ∀ left right : Tree, SameRule left.rule right.rule →
      List.Forall₂ motive left.children right.children → motive (.branch left) (.branch right))
    {left right : Node} (alike : left.Alike same right) : motive left right := by
  induction left using Node.childInduction generalizing right with
  | absent => cases alike with | absent => exact absent
  | leaf token => cases alike with | leaf tokens => exact leaf _ _ tokens
  | branch tree ih =>
      cases alike with
      | branch rules children =>
          apply branch _ _ rules
          have below := (List.forall₂_and_left _ _).mpr ⟨ih, children⟩
          exact below.imp fun _ _ child => child.1 child.2

theorem Node.Alike.imp {other : Token → Token → Prop}
    (implies : ∀ left right, same left right → other left right) {left right : Node}
    (alike : left.Alike same right) : left.Alike other right := by
  refine Node.Alike.induct .absent ?_ ?_ alike
  · intro left right tokens
    exact .leaf (implies left right tokens)
  · intro left right rules children
    exact .branch rules children

theorem Node.Alike.tokens {left right : Node} (alike : left.Alike same right) :
    List.Forall₂ same left.tokens right.tokens := by
  refine Node.Alike.induct .nil ?_ ?_ alike
  · intro left right tokens
    exact .cons tokens .nil
  · intro left right _ ih
    rw [Node.tokens, Node.tokens, Tree.tokens_eq, Tree.tokens_eq, tokensOf_eq_flatMap,
      tokensOf_eq_flatMap]
    exact List.rel_flatMap ih fun _ _ below => below

theorem Node.Alike.conditions {left right : Node} (alike : left.Alike same right) :
    List.Forall₂ (Tree.Alike same) left.conditions right.conditions := by
  -- that the trees themselves are alike goes into the induction: a condition is its own result
  refine (Node.Alike.induct (motive := fun left right => left.Alike same right ∧
    List.Forall₂ (Tree.Alike same) left.conditions right.conditions) ⟨.absent, .nil⟩ ?_ ?_ alike).2
  · intro left right tokens
    exact ⟨.leaf tokens, .nil⟩
  · intro left right rules ih
    have here : left.Alike same right := .branch rules (ih.imp fun _ _ below => below.1)
    refine ⟨here, ?_⟩
    rw [Node.conditions, Node.conditions, Tree.conditions_eq, Tree.conditions_eq,
      ← rules.isConditionRule]
    split
    case isTrue _ => exact .cons here .nil
    case isFalse _ =>
      rw [conditionsOf_eq_flatMap, conditionsOf_eq_flatMap]
      exact List.rel_flatMap ih fun _ _ below => below.2

namespace Tree.Alike

variable {left right : Tree}

theorem rules (alike : left.Alike same right) : SameRule left.rule right.rule := by
  cases alike with
  | branch rules _ => exact rules

theorem children (alike : left.Alike same right) :
    List.Forall₂ (Node.Alike same) left.children right.children := by
  cases alike with
  | branch _ children => exact children

theorem tokens (alike : left.Alike same right) : List.Forall₂ same left.tokens right.tokens :=
  Node.Alike.tokens alike

theorem subtrees (alike : left.Alike same right) :
    List.Forall₂ (Tree.Alike same) left.subtrees right.subtrees := by
  refine List.rel_filterMap ?_ alike.children
  intro _ _ child
  cases child with
  | absent => exact .none
  | leaf _ => exact .none
  | branch rules children => exact .some (.branch rules children)

theorem ownTokens (alike : left.Alike same right) :
    List.Forall₂ same left.ownTokens right.ownTokens := by
  refine List.rel_filterMap ?_ alike.children
  intro _ _ child
  cases child with
  | absent => exact .none
  | leaf tokens => exact .some tokens
  | branch _ _ => exact .none

theorem child? (alike : left.Alike same right) (rule : String)
    (outer : isConditionRule rule = false) :
    Option.Rel (Tree.Alike same) (left.child? rule) (right.child? rule) :=
  rel_find? (fun _ _ child => child.rules.beq outer) alike.subtrees

theorem firstChild (alike : left.Alike same right) {rule : String} {part : Tree}
    (outer : isConditionRule rule = false) (first : FirstChild left rule part) :
    ∃ other, FirstChild right rule other ∧ part.Alike same other := by
  have children := alike.child? rule outer
  rw [child?_eq_some_iff.mpr first] at children
  cases found : right.child? rule with
  | none =>
      rw [found] at children
      cases children
  | some other =>
      rw [found] at children
      cases children with
      | some parts => exact ⟨other, child?_eq_some_iff.mp found, parts⟩

theorem lacks (alike : left.Alike same right) {rule : String}
    (outer : isConditionRule rule = false) (missing : Lacks left rule) : Lacks right rule := by
  have children := alike.child? rule outer
  rw [child?_eq_none_iff.mpr missing] at children
  cases found : right.child? rule with
  | none => exact child?_eq_none_iff.mp found
  | some other =>
      rw [found] at children
      cases children

theorem values (alike : left.Alike same right) :
    List.Forall₂ (Tree.Alike same) left.values right.values := by
  refine List.rel_filter ?_ alike.subtrees
  intro _ _ child
  exact Bool.eq_iff_iff.mp (child.rules.beq (by decide))

theorem operandAmong {lefts rights : List Node}
    (nodes : List.Forall₂ (Node.Alike same) lefts rights) :
    ExceptRel (Option.Rel (Operand.Alike same)) (Tree.operandAmong lefts)
      (Tree.operandAmong rights) := by
  induction nodes with
  | nil => exact .ok .none
  | cons first _ ih =>
      cases first with
      | absent => exact .error _
      | leaf tokens => exact .ok (.some (.scalar tokens))
      | branch rules children =>
          rw [Tree.operandAmong, Tree.operandAmong, isField, isField, ← rules.beq (by decide)]
          split
          case isTrue _ => exact .ok (.some (.field (.branch rules children)))
          case isFalse _ => exact ih

theorem operand (alike : left.Alike same right) :
    ExceptRel (Option.Rel (Operand.Alike same)) left.operand right.operand :=
  operandAmong alike.children

end Tree.Alike

end WorkItemQuery
