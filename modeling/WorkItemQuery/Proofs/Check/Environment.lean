import WorkItemQuery.Proofs.Check.Walk
import WorkItemQuery.Proofs.Condition
import WorkItemQuery.Proofs.Tree.Tokens

/-!
# What a check reads of its surroundings

A check reads the lookup only at the names that stand in the query, and the variable table only at
its variables, so surroundings that agree there give one result.
-/

namespace WorkItemQuery

/-- Scopes in which the names among some tokens have the same rules and the variables among them the
same types. -/
structure Scope.AgreesOn (scope other : Scope) (tokens : List Token) : Prop where
  rules : ∀ name ∈ tokens, name.kind = "IDENTIFIER" →
    (scope.lookup.find? name.text).map FieldEntry.rules =
      (other.lookup.find? name.text).map FieldEntry.rules
  types : ∀ token ∈ tokens, token.kind = "VARIABLE" →
    scope.variableTable.typeOf? token.text = other.variableTable.typeOf? token.text

theorem Scope.AgreesOn.of_subset {scope other : Scope} {tokens part : List Token}
    (agree : scope.AgreesOn other tokens) (within : part ⊆ tokens) : scope.AgreesOn other part where
  rules name member := agree.rules name (within member)
  types token member := agree.types token (within member)

section Agreement

variable {scope other : Scope} {tree : Tree}

/-- What is made of the rules of a name is the same in scopes that agree on it. -/
theorem bind_rules_of_agreesOn {tokens : List Token} (agree : scope.AgreesOn other tokens)
    {name : Token} (member : name ∈ tokens) (identifies : name.kind = "IDENTIFIER") {α : Type}
    (next : OperatorRules → Option α) :
    ((scope.lookup.find? name.text).bind fun entry => next entry.rules) =
      (other.lookup.find? name.text).bind fun entry => next entry.rules := by
  have viewed (found : Option FieldEntry) :
      (found.bind fun entry => next entry.rules) = (found.map FieldEntry.rules).bind next := by
    cases found <;> rfl
  rw [viewed, viewed, agree.rules name member identifies]

theorem subject?_of_agreesOn (agree : scope.AgreesOn other tree.tokens) :
    tree.subject? scope.lookup = tree.subject? other.lookup := by
  rw [Tree.subject?, Tree.subject?]
  cases first : tree.child? "field" with
  | none => rfl
  | some field =>
      simp only [Option.bind_eq_bind, Option.bind_some]
      cases named : field.identifier? with
      | none => rfl
      | some name =>
          have names := Tree.identifier?_eq_some_iff.mp named
          have below := (Tree.child?_eq_some_iff.mp first).tokens_sublist.subset
          exact bind_rules_of_agreesOn agree (below names.mem) names.holds fun rules =>
            some (name, rules)

theorem fieldFault?_of_agreesOn (agree : scope.AgreesOn other tree.tokens)
    (expected : DeclaredType) :
    fieldFault? scope.lookup expected tree = fieldFault? other.lookup expected tree := by
  rw [fieldFault?, fieldFault?]
  cases named : tree.identifier? with
  | none => rfl
  | some name =>
      have names := Tree.identifier?_eq_some_iff.mp named
      exact bind_rules_of_agreesOn agree names.mem names.holds fun rules =>
        if rules.fieldType.same expected then none
        else some (Diagnostic.atToken name (Message.expectedField expected))

theorem valueFault_of_agreesOn {token : Token} (agree : scope.AgreesOn other [token])
    (expected : DeclaredType) :
    valueFault scope.variableTable expected token =
      valueFault other.variableTable expected token := by
  rw [valueFault, valueFault, Token.isVariable]
  by_cases mentions : token.kind = "VARIABLE"
  · rw [agree.types token (List.mem_singleton_self token) mentions]
  · rw [beq_eq_false_iff_ne.mpr mentions]
    rfl

theorem operandFault_of_agreesOn {operand : Operand}
    (agree : scope.AgreesOn other operand.node.tokens) (expected : DeclaredType) :
    operandFault scope expected operand = operandFault other expected operand := by
  cases operand with
  | scalar token => exact valueFault_of_agreesOn agree expected
  | field tree => exact congrArg Except.ok (fieldFault?_of_agreesOn agree expected)

theorem operand_tokens_subset {operand : Operand} (read : tree.operand = .ok (some operand)) :
    operand.node.tokens ⊆ tree.tokens :=
  (child_tokens_sublist (operandAmong_mem read)).subset

theorem listedFault_of_agreesOn (agree : scope.AgreesOn other tree.tokens)
    (expected : DeclaredType) :
    listedFault scope.variableTable expected tree =
      listedFault other.variableTable expected tree := by
  rw [listedFault, listedFault]
  cases read : tree.operand with
  | error error => rfl
  | ok found =>
      cases found with
      | none => rfl
      | some operand =>
          cases operand with
          | scalar token =>
              exact valueFault_of_agreesOn (agree.of_subset (operand_tokens_subset read)) expected
          | field field => rfl

theorem comparison_of_agreesOn {operand : Operand} (rules : OperatorRules) (name : Token)
    (operator : Token × Operator) (agree : scope.AgreesOn other operand.node.tokens) :
    (Condition.comparison rules name operator operand).check scope =
      (Condition.comparison rules name operator operand).check other := by
  rw [Condition.check, Condition.check, operandFault_of_agreesOn agree]

theorem membership_of_agreesOn {list : Tree} (rules : OperatorRules) (name : Token)
    (operator : Option (Token × Operator)) (agree : scope.AgreesOn other list.tokens) :
    (Condition.membership rules name operator list.values).check scope =
      (Condition.membership rules name operator list.values).check other := by
  have faults : list.values.mapM (listedFault scope.variableTable rules.fieldType) =
      list.values.mapM (listedFault other.variableTable rules.fieldType) := by
    refine mapM_congr_of_forall₂ (List.forall₂_same.mpr fun value member => ?_)
    have below : value.tokens ⊆ list.tokens :=
      (child_tokens_sublist (Tree.mem_values_iff.mp member).1).subset
    exact listedFault_of_agreesOn (agree.of_subset below) rules.fieldType
  rw [Condition.check, Condition.check, faults]

theorem readForm_of_agreesOn (agree : scope.AgreesOn other tree.tokens) (name : Token)
    (rules : OperatorRules) :
    (Condition.readForm tree name rules >>= fun condition => condition.check scope) =
      Condition.readForm tree name rules >>= fun condition => condition.check other := by
  rcases both_or_either_lacks tree "operator" "value" with
    ⟨operator, value, first, second⟩ | incomplete
  · rw [Condition.readForm_comparison first second]
    cases read : value.operand with
    | error error => rfl
    | ok found =>
        cases operator.operator? with
        | none => rfl
        | some written =>
            cases found with
            | none => rfl
            | some operand =>
                have below :=
                  List.Subset.trans (operand_tokens_subset read) second.tokens_sublist.subset
                exact comparison_of_agreesOn rules name written (agree.of_subset below)
  · rcases both_or_either_lacks tree "in_operator" "value_list" with
      ⟨operator, list, first, second⟩ | unlisted
    · rw [Condition.readForm_membership incomplete first second]
      have below := second.tokens_sublist.subset
      exact membership_of_agreesOn rules name operator.operator? (agree.of_subset below)
    · rw [Condition.readForm_formless incomplete unlisted]
      rfl

theorem checkCondition_of_agreesOn (agree : scope.AgreesOn other tree.tokens) :
    checkCondition scope tree = checkCondition other tree := by
  rw [checkCondition, checkCondition, Condition.read, Condition.read, subject?_of_agreesOn agree]
  cases tree.subject? other.lookup with
  | none => rfl
  | some subject => exact readForm_of_agreesOn agree subject.1 subject.2

end Agreement

/-- Scopes that agree on the tokens of a query give it the same check. -/
theorem check_of_agreesOn {scope other : Scope} {query : Node}
    (agree : scope.AgreesOn other query.tokens) : check scope query = check other query := by
  cases query with
  | absent => rfl
  | leaf token => rfl
  | branch tree =>
      have conditions : tree.conditions.mapM (checkCondition scope) =
          tree.conditions.mapM (checkCondition other) := by
        refine mapM_congr_of_forall₂ (List.forall₂_same.mpr fun condition member => ?_)
        have below : condition.tokens ⊆ tree.tokens := fun token within =>
          (conditions_tokens_sublist (.branch tree)).subset
            (List.mem_flatMap.mpr ⟨condition, member, within⟩)
        exact checkCondition_of_agreesOn (agree.of_subset below)
      rw [check_branch, check_branch, conditions]

end WorkItemQuery
