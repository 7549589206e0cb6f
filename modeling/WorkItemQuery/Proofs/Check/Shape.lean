import Mathlib.Data.List.ReduceOption
import WorkItemQuery.Proofs.Check.Faults
import WorkItemQuery.Proofs.Check.SourceOrder
import WorkItemQuery.Proofs.Tree.Refill
import WorkItemQuery.Proofs.Tree.Written

/-!
# The shape of a condition's diagnostics

A comparison is checked up to its first fault: where the operator is not legal, the operand is not
looked at. A membership is checked throughout: the fault of its operator comes first, and then that
of each value, whatever the operator and the other values are. Main statement:
`comparison_stops_and_membership_collects`.
-/

namespace WorkItemQuery

/-- The parts of a comparison with a known field on the left. -/
structure IsComparison (lookup : FieldLookup) (condition : Tree) (name : Token)
    (rules : OperatorRules) (operator value : Tree) : Prop where
  subject : condition.subject? lookup = some (name, rules)
  first : FirstChild condition "operator" operator
  second : FirstChild condition "value" value

/-- The parts of a membership with a known field on the left. -/
structure IsMembership (lookup : FieldLookup) (condition : Tree) (name : Token)
    (rules : OperatorRules) (operator list : Tree) : Prop where
  subject : condition.subject? lookup = some (name, rules)
  incomplete : Lacks condition "operator" ∨ Lacks condition "value"
  first : FirstChild condition "in_operator" operator
  second : FirstChild condition "value_list" list

/-- What is wrong with the values of a list, from the first to the last. -/
def ListedFaults (table : VariableTable) (expected : DeclaredType) (values : List Tree)
    (faults : List (Option Diagnostic)) : Prop :=
  List.Forall₂ (fun value fault => listedFault table expected value = .ok fault) values faults

section Shape

variable {scope : Scope} {condition : Tree} {name : Token} {rules : OperatorRules}
  {diagnostics : List Diagnostic}

section Comparison

variable {operator value : Tree}

theorem IsComparison.refill (form : IsComparison scope.lookup condition name rules operator value)
    (children : List Node) :
    IsComparison scope.lookup (condition.refill "value" children) name rules operator
      { value with children } where
  subject := (Tree.subject?_refill_of_ne (by decide) _).trans form.subject
  first := (firstChild_refill_iff (by decide)).mpr form.first
  second := form.second.refill children

theorem IsComparison.check_eq (form : IsComparison scope.lookup condition name rules operator value)
    (checked : isConditionRule condition.rule = true) :
    check scope (.branch condition) = value.operand >>= fun operand =>
      (Condition.ofComparison rules name operator.operator? operand).check scope := by
  rw [check_condition checked, checkCondition, Condition.read, form.subject]
  simp only [Condition.readForm_comparison form.first form.second]
  cases value.operand <;> rfl

theorem ofComparison_check_length {operator : Option (Token × Operator)} {operand : Option Operand}
    (passed : (Condition.ofComparison rules name operator operand).check scope = .ok diagnostics) :
    diagnostics.length ≤ 1 := by
  cases operator with
  | none =>
      cases passed
      exact Nat.zero_le 1
  | some operator =>
      cases operand with
      | none =>
          cases passed
          exact Nat.zero_le 1
      | some operand =>
          rw [Condition.ofComparison, Condition.check] at passed
          split at passed
          · cases passed
            exact Nat.le_refl 1
          · obtain ⟨fault, _, rfl⟩ := map_eq_ok_iff.mp passed
            cases fault <;> simp

theorem IsComparison.check_length
    (form : IsComparison scope.lookup condition name rules operator value)
    (checked : isConditionRule condition.rule = true)
    (passed : check scope (.branch condition) = .ok diagnostics) : diagnostics.length ≤ 1 := by
  rw [form.check_eq checked] at passed
  obtain ⟨operand, _, given⟩ := bind_eq_ok_iff.mp passed
  exact ofComparison_check_length given

/-- With a faulty operator a comparison is checked without a look at its operand. -/
theorem IsComparison.check_of_faulty_operator
    (form : IsComparison scope.lookup condition name rules operator value)
    (checked : isConditionRule condition.rule = true) {token : Token} {written : Operator}
    (writes : Writes operator token written) {operand : Operand}
    (read : value.operand = .ok (some operand)) {fault : Diagnostic}
    (faulty : operatorFault? rules name (token, written) operand.side = some fault) :
    check scope (.branch condition) = .ok [fault] := by
  rw [form.check_eq checked, read, Tree.operator?_eq_some_iff.mpr writes]
  change (Condition.comparison rules name (token, written) operand).check scope = _
  rw [Condition.check, faulty]

theorem IsComparison.check_of_illegal
    (form : IsComparison scope.lookup condition name rules operator value)
    (checked : isConditionRule condition.rule = true) {token : Token} {written : Operator}
    (writes : Writes operator token written) {operand : Operand}
    (read : value.operand = .ok (some operand))
    (illegal : written ∉ rules.operators operand.side) :
    ∃ fault, operatorFault? rules name (token, written) operand.side = some fault ∧
      check scope (.branch condition) = .ok [fault] := by
  cases faulty : operatorFault? rules name (token, written) operand.side with
  | none => exact absurd (operatorFault?_eq_none_iff.mp faulty) illegal
  | some fault => exact ⟨fault, rfl, form.check_of_faulty_operator checked writes read faulty⟩

theorem operand_of_single {tree : Tree} {operand : Operand} (operates : operand.node.IsOperand) :
    Tree.operand { tree with children := [operand.node] } = .ok (some operand) := by
  cases operand with
  | scalar token => rfl
  | field target =>
      have field : target.isField = true := beq_iff_eq.mpr operates
      exact if_pos field

end Comparison

section Membership

variable {operator list : Tree}

theorem IsMembership.refill (form : IsMembership scope.lookup condition name rules operator list)
    (children : List Node) :
    IsMembership scope.lookup (condition.refill "value_list" children) name rules operator
      { list with children } where
  subject := (Tree.subject?_refill_of_ne (by decide) _).trans form.subject
  incomplete := form.incomplete.imp (lacks_refill_iff (by decide)).mpr
    (lacks_refill_iff (by decide)).mpr
  first := (firstChild_refill_iff (by decide)).mpr form.first
  second := form.second.refill children

theorem IsMembership.check_eq_ok_iff
    (form : IsMembership scope.lookup condition name rules operator list)
    (checked : isConditionRule condition.rule = true) :
    check scope (.branch condition) = .ok diagnostics ↔
      ∃ faults, ListedFaults scope.variableTable rules.fieldType list.values faults ∧
        diagnostics =
          (groupFault? rules name operator.operator?).toList ++ faults.reduceOption := by
  rw [check_condition checked, checkCondition, Condition.read, form.subject]
  simp only [Condition.readForm_membership form.incomplete form.first form.second]
  change (Condition.membership rules name operator.operator? list.values).check scope = _ ↔ _
  rw [Condition.check, bind_eq_ok_iff]
  refine exists_congr fun faults => and_congr mapM_eq_ok_iff ?_
  rw [Except.ok.injEq, eq_comm, List.reduceOption]

theorem groupFault?_at_operator {token : Token} {written : Operator}
    (writes : Writes operator token written) {fault : Diagnostic}
    (faulty : groupFault? rules name operator.operator? = some fault) :
    fault.span = token.span := by
  rw [Tree.operator?_eq_some_iff.mpr writes] at faulty
  exact groupFault?_span faulty

theorem groupFault?_at_name (missing : WithoutOperator operator) {fault : Diagnostic}
    (faulty : groupFault? rules name operator.operator? = some fault) :
    fault.span = name.span := by
  rw [Tree.operator?_eq_none_iff.mpr missing] at faulty
  exact groupFault?_span faulty

theorem listedFaults_append_iff {table : VariableTable} {expected : DeclaredType}
    {first second : List Tree} {faults : List (Option Diagnostic)} :
    ListedFaults table expected (first ++ second) faults ↔
      ∃ left right, ListedFaults table expected first left ∧
        ListedFaults table expected second right ∧ faults = left ++ right := by
  simp only [ListedFaults, ← mapM_eq_ok_iff]
  exact mapM_append_eq_ok_iff

/-- The values of a list that is put together are checked as they are in its two halves. -/
theorem IsMembership.check_refill_append
    (form : IsMembership scope.lookup condition name rules operator list)
    (checked : isConditionRule condition.rule = true) (first second : List Node)
    (result : List Diagnostic) :
    let head := (groupFault? rules name operator.operator?).toList
    check scope (.branch (condition.refill "value_list" (first ++ second))) = .ok result ↔
      ∃ left right,
        check scope (.branch (condition.refill "value_list" first)) = .ok (head ++ left) ∧
        check scope (.branch (condition.refill "value_list" second)) = .ok (head ++ right) ∧
        result = head ++ (left ++ right) := by
  intro head
  rw [(form.refill (first ++ second)).check_eq_ok_iff checked, Tree.values_append]
  constructor
  · rintro ⟨faults, listed, rfl⟩
    obtain ⟨left, right, here, there, rfl⟩ := listedFaults_append_iff.mp listed
    exact ⟨left.reduceOption, right.reduceOption,
      ((form.refill first).check_eq_ok_iff checked).mpr ⟨left, here, rfl⟩,
      ((form.refill second).check_eq_ok_iff checked).mpr ⟨right, there, rfl⟩,
      by rw [List.reduceOption_append]⟩
  · rintro ⟨left, right, here, there, rfl⟩
    obtain ⟨lefts, listed, same⟩ := ((form.refill first).check_eq_ok_iff checked).mp here
    obtain ⟨rights, later, again⟩ := ((form.refill second).check_eq_ok_iff checked).mp there
    refine ⟨lefts ++ rights, listedFaults_append_iff.mpr ⟨lefts, rights, listed, later, rfl⟩, ?_⟩
    rw [List.append_cancel_left same, List.append_cancel_left again, List.reduceOption_append]

end Membership

/-- What a comparison gives: a fault of its operator or one of its operand. An operator that is not
legal is at fault, and the operand is then of no account but for its form. -/
structure ComparisonShape (scope : Scope) (condition : Tree) (rules : OperatorRules)
    (operator value : Tree) (diagnostics : List Diagnostic) : Prop where
  single : diagnostics.length ≤ 1
  atOperator {token : Token} {written : Operator} {operand : Operand}
    (writes : Writes operator token written) (read : value.operand = .ok (some operand))
    (illegal : written ∉ rules.operators operand.side) :
    diagnostics.map (·.span) = [token.span]
  disregarded {token : Token} {written : Operator} {operand : Operand}
    (writes : Writes operator token written) (read : value.operand = .ok (some operand))
    (illegal : written ∉ rules.operators operand.side)
    (other : Operand) (operates : other.node.IsOperand) (same : other.side = operand.side) :
    check scope (.branch (condition.refill "value" [other.node])) = .ok diagnostics

/-- What a membership gives: a fault of its operator, if that is not legal, and then the faults of
its values, of which each depends on the value, the type of the field and the variables alone. So a
list that is put together gives what its two halves give. -/
structure MembershipShape (scope : Scope) (condition : Tree) (name : Token) (rules : OperatorRules)
    (operator list : Tree) (head : Option Diagnostic) (diagnostics : List Diagnostic) : Prop where
  legal : head = none ↔ ∃ token written, Writes operator token written ∧ written ∈ rules.group
  atOperator {fault : Diagnostic} (faulty : head = some fault) {token : Token}
    {written : Operator} (writes : Writes operator token written) : fault.span = token.span
  atName {fault : Diagnostic} (faulty : head = some fault)
    (missing : WithoutOperator operator) : fault.span = name.span
  listed : ∃ faults, ListedFaults scope.variableTable rules.fieldType list.values faults ∧
    diagnostics = head.toList ++ faults.reduceOption
  atOperand {value : Tree} {fault : Diagnostic}
    (faulty : listedFault scope.variableTable rules.fieldType value = .ok (some fault)) :
    ∃ operand, value.operand = .ok (some operand) ∧ operand.node.span = .ok fault.span
  together (first second : List Node) (result : List Diagnostic) :
    check scope (.branch (condition.refill "value_list" (first ++ second))) = .ok result ↔
      ∃ left right,
        check scope (.branch (condition.refill "value_list" first)) =
          .ok (head.toList ++ left) ∧
        check scope (.branch (condition.refill "value_list" second)) =
          .ok (head.toList ++ right) ∧
        result = head.toList ++ (left ++ right)

theorem IsComparison.shape {operator value : Tree}
    (form : IsComparison scope.lookup condition name rules operator value)
    (checked : isConditionRule condition.rule = true)
    (passed : check scope (.branch condition) = .ok diagnostics) :
    ComparisonShape scope condition rules operator value diagnostics where
  single := form.check_length checked passed
  atOperator writes read illegal := by
    obtain ⟨fault, faulty, given⟩ := form.check_of_illegal checked writes read illegal
    rw [given] at passed
    cases passed
    rw [List.map_singleton, operatorFault?_span faulty]
  disregarded writes read illegal other operates same := by
    obtain ⟨fault, faulty, given⟩ := form.check_of_illegal checked writes read illegal
    -- the operator's fault depends on the side that the operand is of, and on nothing else of it
    have refilled := (form.refill [other.node]).check_of_faulty_operator checked writes
      (operand_of_single operates) (same ▸ faulty)
    exact refilled.trans (given.symm.trans passed)

theorem IsMembership.shape {operator list : Tree}
    (form : IsMembership scope.lookup condition name rules operator list)
    (checked : isConditionRule condition.rule = true)
    (passed : check scope (.branch condition) = .ok diagnostics) :
    MembershipShape scope condition name rules operator list
      (groupFault? rules name operator.operator?) diagnostics where
  legal := by simp only [groupFault?_eq_none_iff, Tree.operator?_eq_some_iff]
  atOperator faulty _ _ writes := groupFault?_at_operator writes faulty
  atName faulty missing := groupFault?_at_name missing faulty
  listed := (form.check_eq_ok_iff checked).mp passed
  atOperand faulty := by
    obtain ⟨operand, read, spanned, _⟩ := listedFault_anchored faulty
    exact ⟨operand, read, spanned⟩
  together first second result := form.check_refill_append checked first second result

/-- What the check of a condition gives, if it raises no error: a comparison stops at an illegal
operator, while a membership goes on to its values. -/
theorem comparison_stops_and_membership_collects (scope : Scope) {condition : Tree}
    {diagnostics : List Diagnostic} (checked : isConditionRule condition.rule = true)
    (passed : check scope (.branch condition) = .ok diagnostics) :
    (∀ name rules operator value,
      IsComparison scope.lookup condition name rules operator value →
        ComparisonShape scope condition rules operator value diagnostics) ∧
    (∀ name rules operator list,
      IsMembership scope.lookup condition name rules operator list →
        MembershipShape scope condition name rules operator list
          (groupFault? rules name operator.operator?) diagnostics) ∧
    (condition.subject? scope.lookup = none → diagnostics = []) := by
  refine ⟨fun _ _ _ _ form => form.shape checked passed,
    fun _ _ _ _ form => form.shape checked passed, ?_⟩
  intro unknown
  rw [check_condition checked, checkCondition, Condition.read, unknown] at passed
  cases passed
  rfl

end Shape

namespace UnderEffort

def scope : Scope where
  lookup := ⟨⟨[("effort", .typed .double)]⟩⟩
  variableTable := ⟨[("@me", .known .identity)]⟩

def under : Token :=
  .startingAt 9 "UNDER" "Under"

def five : Token :=
  .startingAt 16 "NUMBER" "5"

def me : Token :=
  .startingAt 19 "VARIABLE" "@Me"

def effort : Token :=
  .startingAt 25 "IDENTIFIER" "Effort"

def ada : Token :=
  .startingAt 34 "STRING" "'Ada'"

/-- `[Effort] Under 5` -/
def comparison : Tree :=
  .ofComparison (.startingAt 0 "IDENTIFIER" "Effort") under (.scalar five)

/-- `[Effort] Under (…)` -/
def membership (values : List Node) : Tree where
  rule := "condition"
  children :=
    [.branch (.around "field" (.startingAt 0 "IDENTIFIER" "Effort")),
     .branch (.around "in_operator" under), .branch ⟨"value_list", values, .absent⟩]
  extent := .absent

def scalars : List Node :=
  [.branch (.around "value" five), .branch (.around "value" me)]

/-- A field, a value that has lost its operand, and a literal. -/
def others : List Node :=
  [.branch ⟨"value", [.branch (.around "field" effort)], .absent⟩,
   .branch ⟨"value", [], .absent⟩, .branch (.around "value" ada)]

theorem comparison_form :
    IsComparison scope.lookup comparison (.startingAt 0 "IDENTIFIER" "Effort")
      FieldType.double.rules (.around "operator" under) (.around "value" five) :=
  ⟨rfl, Tree.child?_eq_some_iff.mp rfl, Tree.child?_eq_some_iff.mp rfl⟩

theorem membership_form (values : List Node) :
    IsMembership scope.lookup (membership values) (.startingAt 0 "IDENTIFIER" "Effort")
      FieldType.double.rules (.around "in_operator" under) ⟨"value_list", values, .absent⟩ :=
  ⟨rfl, .inl (Tree.child?_eq_none_iff.mp rfl), Tree.child?_eq_some_iff.mp rfl,
    Tree.child?_eq_some_iff.mp rfl⟩

end UnderEffort

open UnderEffort in
theorem under_effort_in_both_forms :
    let wrongOperator (side : RightSide) := Diagnostic.atToken under
      (Message.validComparisons (FieldType.double.rules.operators side))
    let wrongKind (token : Token) := Diagnostic.atToken token (Message.expectedValue .number)
    let wrongField := Diagnostic.atToken effort Message.literalsOnly
    check scope (.branch comparison) = .ok [wrongOperator .literal] ∧
      check scope (.branch (comparison.refill "value" [.leaf ada])) =
        .ok [wrongOperator .literal] ∧
      check scope (.branch (membership scalars)) = .ok [wrongOperator .group, wrongKind me] ∧
      check scope (.branch (membership others)) =
        .ok [wrongOperator .group, wrongField, wrongKind ada] ∧
      check scope (.branch (membership (scalars ++ others))) =
        .ok [wrongOperator .group, wrongKind me, wrongField, wrongKind ada] := by
  intro wrongOperator wrongKind wrongField
  have refused : check scope (.branch comparison) = .ok [wrongOperator .literal] := rfl
  have first : check scope (.branch (membership scalars)) =
      .ok [wrongOperator .group, wrongKind me] := rfl
  have second : check scope (.branch (membership others)) =
      .ok [wrongOperator .group, wrongField, wrongKind ada] := rfl
  obtain ⟨comparisons, -, -⟩ := comparison_stops_and_membership_collects scope rfl refused
  obtain ⟨-, memberships, -⟩ := comparison_stops_and_membership_collects scope rfl first
  have compared := comparisons _ _ _ _ comparison_form
  have listed := memberships _ _ _ _ (membership_form scalars)
  have illegal : Operator.under ∉ FieldType.double.rules.operators .literal := by decide
  have disregarded : check scope (.branch (comparison.refill "value" [.leaf ada])) =
      .ok [wrongOperator .literal] :=
    compared.disregarded (Tree.around_writes rfl _) rfl illegal (.scalar ada) trivial rfl
  have together : check scope (.branch (membership (scalars ++ others))) =
      .ok [wrongOperator .group, wrongKind me, wrongField, wrongKind ada] :=
    (listed.together scalars others _).mpr
      ⟨[wrongKind me], [wrongField, wrongKind ada], first, second, rfl⟩
  exact ⟨refused, disregarded, first, second, together⟩

end WorkItemQuery
