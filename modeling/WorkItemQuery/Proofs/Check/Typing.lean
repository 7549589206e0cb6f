import WorkItemQuery.Proofs.Check.Faults
import WorkItemQuery.Proofs.Check.Walk
import WorkItemQuery.Proofs.Condition
import WorkItemQuery.Proofs.Except
import WorkItemQuery.Proofs.Lookup.Built
import WorkItemQuery.Proofs.Tree.Outermost

/-!
# Typing

A query passes its check exactly if all of its outermost conditions are well typed.
-/

namespace WorkItemQuery

variable {scope : Scope} {rules : OperatorRules} {type : FieldType} {name : Token}

theorem comparison_check_eq_nil_iff {operator : Token × Operator} {operand : Operand} :
    (Condition.comparison rules name operator operand).check scope = .ok [] ↔
      operator.2 ∈ rules.operators operand.side ∧
        operandFault scope rules.fieldType operand = .ok none := by
  rw [← operatorFault?_eq_none_iff, Condition.check]
  cases operatorFault? rules name operator operand.side with
  | some fault => simp
  | none => simp [map_eq_ok_iff]

theorem membership_check_eq_nil_iff {operator : Option (Token × Operator)} {values : List Tree} :
    (Condition.membership rules name operator values).check scope = .ok [] ↔
      groupFault? rules name operator = none ∧
        ∀ value ∈ values, listedFault scope.variableTable rules.fieldType value = .ok none := by
  rw [← mapM_finds_nothing_iff, Condition.check, bind_eq_ok_iff]
  constructor
  · intro checked
    obtain ⟨faults, found, nothing⟩ := checked
    obtain ⟨group, listed⟩ := List.append_eq_nil_iff.mp (Except.ok.inj nothing)
    exact ⟨Option.toList_eq_nil_iff.mp group, faults, found, listed⟩
  · intro faultless
    obtain ⟨group, faults, found, listed⟩ := faultless
    exact ⟨faults, found, by rw [group, listed]; rfl⟩

theorem comparison_typed_iff (typed : scope.variableTable.Typed)
    (declared : rules.fieldType = .known type) {operator value : Tree}
    (present : Node.absent ∉ value.children) :
    (do (← value.operand.map (Condition.ofComparison rules name operator.operator?)).check scope) =
        .ok [] ↔
      ComparisonTyped scope rules type operator value := by
  obtain ⟨operand, read⟩ := value.operand_total present
  rw [read]
  change (Condition.ofComparison rules name operator.operator? operand).check scope = _ ↔ _
  cases found : operator.operator? with
  | none => exact iff_of_true rfl (.withoutOperator (Tree.operator?_eq_none_iff.mp found))
  | some pair =>
      obtain ⟨token, written⟩ := pair
      have writes : Writes operator token written := Tree.operator?_eq_some_iff.mp found
      cases operand with
      | none =>
          have empty : WithoutOperand value := (Tree.operand_eq_none_iff present).mp read
          exact iff_of_true rfl (.withoutOperand empty)
      | some operand =>
          have holds : Holds value operand := (Tree.operand_eq_some_iff present).mp read
          rw [Condition.ofComparison, comparison_check_eq_nil_iff, declared]
          cases operand with
          | scalar literal =>
              rw [operandFault, valueFault_eq_none_iff typed,
                comparisonTyped_scalar_iff writes holds]
              exact Iff.rfl
          | field target =>
              rw [operandFault, Except.ok.injEq, fieldFault?_eq_none_iff,
                comparisonTyped_field_iff writes holds]
              exact Iff.rfl

theorem membership_typed_iff (typed : scope.variableTable.Typed)
    (declared : rules.fieldType = .known type) {operator list : Tree}
    (whole : Node.Whole (.branch list)) :
    (Condition.membership rules name operator.operator? list.values).check scope = .ok [] ↔
      MembershipTyped scope.variableTable rules type operator list := by
  rw [membership_check_eq_nil_iff, groupFault?_eq_none_iff, declared]
  have listed_iff (value : Tree) (member : .branch value ∈ list.children) :
      listedFault scope.variableTable (.known type) value = .ok none ↔
        ListedTyped scope.variableTable type value :=
    listedFault_eq_none_iff typed (whole.child member).absent_not_mem
  constructor
  · intro faultless
    obtain ⟨⟨token, written, found, legal⟩, listed⟩ := faultless
    refine .listed (Tree.operator?_eq_some_iff.mp found) legal ?_
    intro value member rule
    exact (listed_iff value member).mp (listed value (Tree.mem_values_iff.mpr ⟨member, rule⟩))
  · intro membership
    obtain ⟨writes, legal, listed⟩ := membership
    refine ⟨⟨_, _, Tree.operator?_eq_some_iff.mpr writes, legal⟩, ?_⟩
    intro value among
    obtain ⟨member, rule⟩ := Tree.mem_values_iff.mp among
    exact (listed_iff value member).mpr (listed value member rule)

theorem form_typed_iff (typed : scope.variableTable.Typed)
    (declared : rules.fieldType = .known type) {condition : Tree}
    (whole : Node.Whole (.branch condition)) :
    (do (← Condition.readForm condition name rules).check scope) = .ok [] ↔
      FormTyped scope rules type condition := by
  rcases both_or_either_lacks condition "operator" "value" with
    ⟨operator, value, first, second⟩ | incomplete
  · have present := (whole.child second.mem).absent_not_mem
    rw [Condition.readForm_comparison first second, formTyped_comparison_iff first second]
    exact comparison_typed_iff typed declared present
  · rcases both_or_either_lacks condition "in_operator" "value_list" with
      ⟨operator, list, first, second⟩ | unlisted
    · rw [Condition.readForm_membership incomplete first second,
        formTyped_membership_iff incomplete first second]
      exact membership_typed_iff typed declared (whole.child second.mem)
    · rw [Condition.readForm_formless incomplete unlisted]
      exact iff_of_true rfl (.formless incomplete unlisted)

theorem checkCondition_eq_nil_iff (typed : scope.variableTable.Typed)
    (declared : ∀ name entry, scope.lookup.find? name = some entry →
      ∃ type, entry.rules.fieldType = .known type)
    {condition : Tree} (whole : Node.Whole (.branch condition)) :
    checkCondition scope condition = .ok [] ↔ WellTyped scope condition := by
  rw [checkCondition]
  rcases firstChild_or_lacks condition "field" with ⟨field, first⟩ | absent
  · cases named : field.identifier? with
    | none =>
        have unnamed : Nameless field := Tree.identifier?_eq_none_iff.mp named
        rw [Condition.read_nameless first unnamed]
        exact iff_of_true rfl (.nameless first unnamed)
    | some name =>
        have names : Names field name := Tree.identifier?_eq_some_iff.mp named
        cases found : scope.lookup.find? name.text with
        | none =>
            rw [Condition.read_unknown first names found]
            exact iff_of_true rfl (.unknown first names found)
        | some entry =>
            obtain ⟨type, known⟩ := declared name.text entry found
            rw [Condition.read_known first names found,
              wellTyped_known_iff first names found known]
            exact form_typed_iff typed known whole
  · rw [Condition.read_fieldless absent]
    exact iff_of_true rfl (.fieldless absent)

theorem check_eq_nil_iff {query : Node} (present : query ≠ .absent) :
    check scope query = .ok [] ↔
      ∀ condition ∈ query.conditions, checkCondition scope condition = .ok [] := by
  rw [check, visit_eq_visitConditions present]
  induction query.conditions with
  | nil => exact iff_of_true rfl (by simp)
  | cons condition rest ih =>
      rw [List.forall_mem_cons, ← ih, visitConditions, Visit.result_andThen, result_visitCondition,
        bind_eq_ok_iff]
      constructor
      · intro checked
        obtain ⟨earlier, first, later⟩ := checked
        obtain ⟨remaining, second, nothing⟩ := map_eq_ok_iff.mp later
        obtain ⟨rfl, rfl⟩ := List.append_eq_nil_iff.mp nothing
        exact ⟨first, second⟩
      · intro checked
        obtain ⟨first, second⟩ := checked
        exact ⟨[], first, map_eq_ok_iff.mpr ⟨[], second, rfl⟩⟩

/-- A query without gaps passes its check exactly if each of its outermost conditions is well typed;
in particular none of them raises an error then. -/
theorem passes_iff_well_typed {fields : List FieldDescriptor} {lookup : FieldLookup}
    (built : FieldLookup.build fields = .ok lookup) {table : VariableTable} (typed : table.Typed)
    {query : Node} (whole : query.Whole) :
    check ⟨lookup, table⟩ query = .ok [] ↔
      ∀ condition, Outermost query condition → WellTyped ⟨lookup, table⟩ condition := by
  have declared (name : String) (entry : FieldEntry) (found : lookup.find? name = some entry) :
      ∃ type, entry.rules.fieldType = .known type :=
    (FieldLookup.find?_isBuiltin built found).fieldType
  have present : query ≠ .absent := by
    intro missing
    subst missing
    cases whole
  rw [check_eq_nil_iff present]
  constructor
  · intro checked condition outermost
    exact (checkCondition_eq_nil_iff typed declared (outermost.whole whole)).mp
      (checked condition (mem_conditions_iff_outermost.mpr outermost))
  · intro wellTyped condition member
    have outermost : Outermost query condition := mem_conditions_iff_outermost.mp member
    exact (checkCondition_eq_nil_iff typed declared (outermost.whole whole)).mpr
      (wellTyped condition outermost)

namespace AssignedToMe

def field : FieldDescriptor where
  name := .text "Assigned To"
  referenceName := .text "System.AssignedTo"
  declaredType := .known .identity

def lookup : FieldLookup where
  entries := ⟨[("assigned to", .typed .identity), ("system.assignedto", .typed .identity)]⟩

def leaf (kind text : String) : Node :=
  .leaf { kind, text, span := ⟨none, none, none, none, none, none⟩ }

/-- The condition `[Assigned To] = @Me`. -/
def condition : Tree where
  rule := "condition"
  children :=
    [.branch ⟨"field", [leaf "IDENTIFIER" "Assigned To"], .absent⟩,
     .branch ⟨"operator", [leaf "EQUALS" "="], .absent⟩,
     .branch ⟨"value", [leaf "VARIABLE" "@Me"], .absent⟩]
  extent := .absent

def query : Node :=
  .branch ⟨"where_clause", [leaf "WHERE" "WHERE", .branch condition], .absent⟩

theorem leaf_only_whole (kind text rule : String) :
    Node.Whole (.branch ⟨rule, [leaf kind text], .absent⟩) :=
  .branch (List.forall_mem_singleton.mpr (.leaf _))

theorem condition_whole : Node.Whole (.branch condition) := by
  refine .branch ?_
  intro child member
  simp only [condition, List.mem_cons, List.not_mem_nil, or_false] at member
  rcases member with rfl | rfl | rfl <;> exact leaf_only_whole _ _ _

theorem query_whole : query.Whole := by
  refine .branch ?_
  intro child member
  simp only [List.mem_cons, List.not_mem_nil, or_false] at member
  rcases member with rfl | rfl
  · exact .leaf _
  · exact condition_whole

theorem condition_outermost : Outermost query condition :=
  .inside (by decide) (List.mem_cons_of_mem _ (List.mem_singleton_self _)) (.here (by decide))

end AssignedToMe

open AssignedToMe in
theorem assigned_to_me_well_typed :
    FieldLookup.build [field] = .ok lookup ∧ VariableTable.predefined.Typed ∧ query.Whole ∧
      check ⟨lookup, VariableTable.predefined⟩ query = .ok [] ∧ Outermost query condition ∧
      WellTyped ⟨lookup, VariableTable.predefined⟩ condition := by
  have built : FieldLookup.build [field] = .ok lookup := rfl
  have typed := VariableTable.predefined_typed
  have passes : check ⟨lookup, VariableTable.predefined⟩ query = .ok [] := rfl
  have wellTyped := (passes_iff_well_typed built typed query_whole).mp passes condition
    condition_outermost
  exact ⟨built, typed, query_whole, passes, condition_outermost, wellTyped⟩

end WorkItemQuery
