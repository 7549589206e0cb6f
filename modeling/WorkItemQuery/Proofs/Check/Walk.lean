import WorkItemQuery.Check
import WorkItemQuery.Proofs.Except
import WorkItemQuery.Proofs.Tree.Outermost

/-!
# The walk

The walk through a query comes to exactly its outermost conditions, in source order, so a query is
checked by checking them one after the other.
-/

namespace WorkItemQuery

namespace Visit

@[simp] theorem andThen_empty (visit : Visit) : visit.andThen empty = visit := by
  obtain ⟨diagnostics, records, error?⟩ := visit
  cases error? <;> simp [andThen, after, empty]

theorem andThen_assoc (first second third : Visit) :
    (first.andThen second).andThen third = first.andThen (second.andThen third) := by
  obtain ⟨diagnostics, records, error?⟩ := first
  obtain ⟨laterDiagnostics, laterRecords, later?⟩ := second
  cases error? <;> cases later? <;> simp [andThen, after, List.append_assoc]

theorem result_andThen (first second : Visit) :
    (first.andThen second).result =
      first.result >>= fun earlier => second.result.map (earlier ++ ·) := by
  obtain ⟨diagnostics, records, error?⟩ := first
  obtain ⟨laterDiagnostics, laterRecords, later?⟩ := second
  cases error? <;> cases later? <;> rfl

end Visit

variable {scope : Scope}

/-- Checks conditions one after the other, up to the first error. -/
def visitConditions (scope : Scope) : List Tree → Visit
  | [] => .empty
  | condition :: rest => (visitCondition scope condition).andThen (visitConditions scope rest)

theorem visitConditions_append (first second : List Tree) :
    visitConditions scope (first ++ second) =
      (visitConditions scope first).andThen (visitConditions scope second) := by
  induction first with
  | nil => rfl
  | cons condition rest ih =>
      rw [List.cons_append, visitConditions, visitConditions, ih, Visit.andThen_assoc]

mutual

theorem Node.walk_eq_visitConditions (node : Node) :
    node.walk scope = visitConditions scope node.conditions := by
  cases node with
  | absent => rfl
  | leaf token => rfl
  | branch tree => exact tree.walk_eq_visitConditions

theorem Tree.walk_eq_visitConditions (tree : Tree) :
    tree.walk scope = visitConditions scope tree.conditions := by
  obtain ⟨rule, children, extent⟩ := tree
  rw [Tree.walk, Tree.conditions]
  split
  case isTrue _ => exact (Visit.andThen_empty _).symm
  case isFalse _ => exact walkChildren_eq_visitConditions children

theorem walkChildren_eq_visitConditions (nodes : List Node) :
    walkChildren scope nodes = visitConditions scope (conditionsOf nodes) := by
  cases nodes with
  | nil => rfl
  | cons node rest =>
      rw [walkChildren, conditionsOf, visitConditions_append, node.walk_eq_visitConditions,
        walkChildren_eq_visitConditions rest]

end

theorem visit_branch (query : Tree) :
    visit scope (.branch query) = visitConditions scope query.conditions :=
  query.walk_eq_visitConditions

theorem visit_eq_visitConditions {query : Node} (present : query ≠ .absent) :
    visit scope query = visitConditions scope query.conditions := by
  cases query with
  | absent => exact absurd rfl present
  | leaf token => rfl
  | branch query => exact visit_branch query

theorem result_visitCondition (condition : Tree) :
    (visitCondition scope condition).result = checkCondition scope condition := by
  rw [visitCondition]
  cases checkCondition scope condition with
  | error error => rfl
  | ok diagnostics =>
      change Except.ok (diagnostics ++ []) = _
      rw [List.append_nil]

theorem result_visitConditions (conditions : List Tree) :
    (visitConditions scope conditions).result =
      (conditions.mapM (checkCondition scope)).map List.flatten := by
  induction conditions with
  | nil => rfl
  | cons condition rest ih =>
      rw [visitConditions, Visit.result_andThen, ih, result_visitCondition, List.mapM_cons]
      cases checkCondition scope condition with
      | error error => rfl
      | ok diagnostics => cases rest.mapM (checkCondition scope) <;> rfl

theorem check_branch (query : Tree) :
    check scope (.branch query) =
      (query.conditions.mapM (checkCondition scope)).map List.flatten := by
  rw [check, visit_branch, result_visitConditions]

theorem check_condition {condition : Tree} (checked : isConditionRule condition.rule = true) :
    check scope (.branch condition) = checkCondition scope condition := by
  rw [check_branch, Tree.conditions_eq, if_pos checked, List.mapM_cons, List.mapM_nil]
  cases checkCondition scope condition with
  | error error => rfl
  | ok diagnostics =>
      change Except.ok (diagnostics ++ []) = _
      rw [List.append_nil]

theorem check_of_mem_conditions {query condition : Tree} (member : condition ∈ query.conditions) :
    check scope (.branch condition) = checkCondition scope condition := by
  have outermost : Outermost (.branch query) condition := mem_conditions_iff_outermost.mp member
  exact check_condition outermost.isConditionRule

/-- What the checks of the outermost conditions give, one after the other. -/
theorem check_eq_mapM_check (query : Tree) :
    check scope (.branch query) =
      (query.conditions.mapM fun condition => check scope (.branch condition)).map
        List.flatten := by
  rw [check_branch]
  congr 1
  exact mapM_congr_of_forall₂
    (List.forall₂_same.mpr fun condition member => (check_of_mem_conditions member).symm)

end WorkItemQuery
