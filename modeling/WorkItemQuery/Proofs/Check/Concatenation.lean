import Mathlib.Logic.Relation
import WorkItemQuery.Proofs.Check.Alike

/-!
# Checking is concatenation

A query is checked by checking its outermost conditions from left to right, so nothing else in the
query matters: what stands around the conditions can be taken apart, put in or taken out, and a
condition of one of the two rules can become one of the other. Main statement:
`check_concatenates_outermost_conditions`.
-/

namespace WorkItemQuery

theorem Tree.Alike.checkCondition_of_tokens {scope : Scope} {left right : Tree}
    (alike : left.Alike Eq right) :
    WorkItemQuery.checkCondition scope left = WorkItemQuery.checkCondition scope right := by
  have exchangeable (left right : Token) (same : left = right) :
      left.Exchangeable scope.variableTable right :=
    same ▸ (Token.Matches.refl left).exchangeable scope.variableTable
  exact alike.checkCondition_eq exchangeable fun _ _ same _ => congrArg Token.text same

/-- No condition is in the node, at any depth. -/
inductive Node.ConditionFree : Node → Prop where
  | absent : ConditionFree .absent
  | leaf (token : Token) : ConditionFree (.leaf token)
  | branch {tree : Tree} (outer : isConditionRule tree.rule = false)
      (children : ∀ child ∈ tree.children, child.ConditionFree) : ConditionFree (.branch tree)

theorem Node.ConditionFree.conditions_eq_nil {node : Node} (free : node.ConditionFree) :
    node.conditions = [] := by
  induction free with
  | absent => rfl
  | leaf token => rfl
  | branch outer _ ih =>
      rw [Node.conditions, Tree.conditions_eq, outer, conditionsOf_eq_flatMap]
      exact List.flatMap_eq_nil_iff.mpr ih

/-- One change to a query that leaves its conditions what they are. All but the last are made
outside of conditions. -/
inductive Tree.Reshaped : Tree → Tree → Prop where
  /-- The children of a tree that is no condition take the place of the tree. -/
  | splice {rule : String} {extent : Extent} (before after : List Node) {inner : Tree}
      (outer : isConditionRule rule = false) (free : isConditionRule inner.rule = false) :
      Reshaped ⟨rule, before ++ .branch inner :: after, extent⟩
        ⟨rule, before ++ inner.children ++ after, extent⟩
  | insert {rule : String} {extent : Extent} (before after : List Node) {node : Node}
      (outer : isConditionRule rule = false) (free : node.ConditionFree) :
      Reshaped ⟨rule, before ++ after, extent⟩ ⟨rule, before ++ node :: after, extent⟩
  | inside {rule : String} {extent : Extent} (before after : List Node) {first second : Tree}
      (outer : isConditionRule rule = false) (reshaped : Reshaped first second) :
      Reshaped ⟨rule, before ++ .branch first :: after, extent⟩
        ⟨rule, before ++ .branch second :: after, extent⟩
  /-- Conditions, at any depth, change from one of the two rules to the other. -/
  | relabel {first second : Tree} (alike : first.Alike Eq second) : Reshaped first second

theorem Tree.Reshaped.conditions {first second : Tree} (reshaped : first.Reshaped second) :
    List.Forall₂ (Tree.Alike Eq) first.conditions second.conditions := by
  have unchanged (conditions : List Tree) : List.Forall₂ (Tree.Alike Eq) conditions conditions :=
    List.forall₂_same.mpr fun condition _ => Node.Alike.refl (fun _ => rfl) (.branch condition)
  induction reshaped with
  | splice before after outer free =>
      simp only [Tree.conditions_eq, conditionsOf_eq_flatMap, outer, free, List.flatMap_append,
        List.flatMap_cons, Node.conditions, List.append_assoc, Bool.false_eq_true, if_false]
      exact unchanged _
  | insert before after outer free =>
      simp only [Tree.conditions_eq, conditionsOf_eq_flatMap, outer, List.flatMap_append,
        List.flatMap_cons, free.conditions_eq_nil, List.nil_append, Bool.false_eq_true, if_false]
      exact unchanged _
  | @inside rule extent before after first second outer _ ih =>
      rw [Tree.conditions_eq, Tree.conditions_eq]
      simp only [conditionsOf_eq_flatMap, outer, List.flatMap_append, List.flatMap_cons,
        Node.conditions, Bool.false_eq_true, if_false]
      exact List.rel_append (unchanged _) (List.rel_append ih (unchanged _))
  | relabel alike => exact Node.Alike.conditions alike

theorem check_eq_of_reshaped {scope : Scope} {query other : Tree}
    (reshaped : Relation.EqvGen Tree.Reshaped query other) :
    check scope (.branch query) = check scope (.branch other) := by
  induction reshaped with
  | rel _ _ step =>
      rw [check_branch, check_branch, mapM_congr_of_forall₂
        (step.conditions.imp fun _ _ condition => condition.checkCondition_of_tokens)]
  | refl _ => rfl
  | symm _ _ _ ih => exact ih.symm
  | trans _ _ _ _ _ first second => exact first.trans second

/-- The diagnostics of a query are those of its outermost conditions from left to right, unless one
of these raises an error: then the query raises the error of the first that does. -/
theorem check_concatenates_outermost_conditions (scope : Scope) :
    (∀ query diagnostics, check scope (.branch query) = .ok diagnostics ↔
      ∃ parts, List.Forall₂ (fun condition part => check scope (.branch condition) = .ok part)
          query.outermostConditions parts ∧ parts.flatten = diagnostics) ∧
    (∀ query error, check scope (.branch query) = .error error ↔
      ∃ condition, IsFirst (Fails fun condition => check scope (.branch condition))
          query.outermostConditions condition ∧ check scope (.branch condition) = .error error) ∧
    ∀ query other, Relation.EqvGen Tree.Reshaped query other →
      check scope (.branch query) = check scope (.branch other) := by
  refine ⟨?_, ?_, fun _ _ reshaped => check_eq_of_reshaped reshaped⟩
  · intro query diagnostics
    rw [Tree.outermostConditions_eq, check_eq_mapM_check, map_eq_ok_iff]
    simp only [mapM_eq_ok_iff]
  · intro query error
    rw [Tree.outermostConditions_eq, check_eq_mapM_check, map_eq_error_iff, mapM_eq_error_iff]

namespace TwoConditions

def lookup : FieldLookup where
  entries := ⟨[("title", .typed .string)]⟩

def token (kind text : String) (start : Int) : Token where
  kind
  text
  span := ⟨some start, none, none, none, none, none⟩

def five : Token :=
  token "NUMBER" "5" 8

def under : Token :=
  token "UNDER" "Under" 22

/-- `[Title] = 5` -/
def comparison : Tree where
  rule := "condition"
  children :=
    [.branch ⟨"field", [.leaf (token "IDENTIFIER" "Title" 0)], .absent⟩,
     .branch ⟨"operator", [.leaf (token "EQUALS" "=" 6)], .absent⟩,
     .branch ⟨"value", [.leaf five], .absent⟩]
  extent := .absent

/-- `[Title] Under 'A'`, as a condition of the given rule -/
def ancestry (rule : String) : Tree where
  rule
  children :=
    [.branch ⟨"field", [.leaf (token "IDENTIFIER" "Title" 14)], .absent⟩,
     .branch ⟨"operator", [.leaf under], .absent⟩,
     .branch ⟨"value", [.leaf (token "STRING" "'A'" 28)], .absent⟩]
  extent := .absent

/-- Both conditions in a group, which has lost a part. -/
def grouped : Tree :=
  ⟨"where_clause", [.branch ⟨"group", [.branch comparison, .absent, .branch (ancestry "condition")],
    .absent⟩], .absent⟩

/-- The conditions on their own, the second one under the other rule. -/
def plain : Tree :=
  ⟨"where_clause", [.branch comparison, .branch (ancestry "link_condition")], .absent⟩

theorem ancestry_alike : (ancestry "condition").Alike Eq (ancestry "link_condition") :=
  .branch (.inr ⟨rfl, rfl⟩) (List.forall₂_same.mpr fun node _ => .refl (fun _ => rfl) node)

theorem grouped_reshaped : Relation.EqvGen Tree.Reshaped grouped plain := by
  have spliced : Tree.Reshaped grouped
      ⟨"where_clause", [.branch comparison, .absent, .branch (ancestry "condition")], .absent⟩ :=
    .splice [] [] rfl rfl
  have filled : Tree.Reshaped
      ⟨"where_clause", [.branch comparison, .branch (ancestry "condition")], .absent⟩
      ⟨"where_clause", [.branch comparison, .absent, .branch (ancestry "condition")], .absent⟩ :=
    .insert [.branch comparison] [.branch (ancestry "condition")] rfl .absent
  have relabelled : Tree.Reshaped
      ⟨"where_clause", [.branch comparison, .branch (ancestry "condition")], .absent⟩ plain :=
    .inside [.branch comparison] [] rfl (.relabel ancestry_alike)
  exact .trans _ _ _ (.rel _ _ spliced) (.trans _ _ _ (.symm _ _ (.rel _ _ filled))
    (.rel _ _ relabelled))

end TwoConditions

open TwoConditions in
theorem grouped_conditions_checked_alike :
    let scope : Scope := ⟨lookup, VariableTable.predefined⟩
    let wrongKind := Diagnostic.atToken five (Message.expectedValue .string)
    let wrongOperator := Diagnostic.atToken under
      (Message.validComparisons (FieldType.string.rules.operators .literal))
    grouped.outermostConditions = [comparison, ancestry "condition"] ∧
      check scope (.branch comparison) = .ok [wrongKind] ∧
      check scope (.branch (ancestry "condition")) = .ok [wrongOperator] ∧
      check scope (.branch grouped) = .ok [wrongKind, wrongOperator] ∧
      check scope (.branch plain) = .ok [wrongKind, wrongOperator] := by
  intro scope wrongKind wrongOperator
  have first : check scope (.branch comparison) = .ok [wrongKind] := rfl
  have second : check scope (.branch (ancestry "condition")) = .ok [wrongOperator] := rfl
  obtain ⟨concatenated, _, reshaped⟩ := check_concatenates_outermost_conditions scope
  have together : check scope (.branch grouped) = .ok [wrongKind, wrongOperator] :=
    (concatenated grouped _).mpr ⟨_, .cons first (.cons second .nil), rfl⟩
  exact ⟨rfl, first, second, together, (reshaped _ _ grouped_reshaped).symm.trans together⟩

end WorkItemQuery
