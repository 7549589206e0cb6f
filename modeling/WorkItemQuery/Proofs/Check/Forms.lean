import WorkItemQuery.Proofs.Check.Typing
import WorkItemQuery.Proofs.Tree.Written

/-!
# Conditions of one form

A condition that compares a known field with a scalar or with another field, or that looks for it in
a list of scalars, passes its check exactly if the operator is legal for that right-hand side and
nothing is wrong with what stands there.
-/

namespace WorkItemQuery

def HoldsScalar (value : Tree) (token : Token) : Prop :=
  Node.absent ∉ value.children ∧ Holds value (.scalar token)

/-- A condition `name operator operand`. -/
structure Compares (condition : Tree) (name : Token) (written : Operator) (operand : Operand) :
    Prop where
  checked : isConditionRule condition.rule = true
  named : ∃ field, FirstChild condition "field" field ∧ Names field name
  writes : ∃ operator token, FirstChild condition "operator" operator ∧
    Writes operator token written
  holds : ∃ value, FirstChild condition "value" value ∧ Node.absent ∉ value.children ∧
    Holds value operand

/-- A condition `name operator scalar`. -/
structure ComparesScalar (condition : Tree) (name : Token) (written : Operator) (scalar : Token) :
    Prop where
  checked : isConditionRule condition.rule = true
  named : ∃ field, FirstChild condition "field" field ∧ Names field name
  writes : ∃ operator token, FirstChild condition "operator" operator ∧
    Writes operator token written
  holds : ∃ value, FirstChild condition "value" value ∧ HoldsScalar value scalar

/-- A condition `name operator [other]`. -/
def ComparesField (condition : Tree) (name : Token) (written : Operator) (other : Token) : Prop :=
  ∃ target, Compares condition name written (.field target) ∧ Names target other

/-- A condition `name operator (scalar, …, scalar)`. -/
structure ListsScalars (condition : Tree) (name : Token) (written : Operator)
    (scalars : List Token) : Prop where
  checked : isConditionRule condition.rule = true
  named : ∃ field, FirstChild condition "field" field ∧ Names field name
  incomplete : Lacks condition "operator" ∨ Lacks condition "value"
  writes : ∃ operator token, FirstChild condition "in_operator" operator ∧
    Writes operator token written
  lists : ∃ list, FirstChild condition "value_list" list ∧
    List.Forall₂ HoldsScalar list.values scalars

theorem HoldsScalar.operand_eq {value : Tree} {token : Token} (held : HoldsScalar value token) :
    value.operand = .ok (some (.scalar token)) :=
  (Tree.operand_eq_some_iff held.1).mpr held.2

theorem listedFault_of_holdsScalar {table : VariableTable} {expected : DeclaredType}
    {values : List Tree} {scalars : List Token} (held : List.Forall₂ HoldsScalar values scalars) :
    (∀ value ∈ values, listedFault table expected value = .ok none) ↔
      ∀ scalar ∈ scalars, valueFault table expected scalar = .ok none := by
  induction held with
  | nil => simp
  | cons here _ ih =>
      rw [List.forall_mem_cons, List.forall_mem_cons, ih, listedFault_of_scalar here.operand_eq]

variable {scope : Scope} {condition : Tree} {name : Token} {entry : FieldEntry}
  {written : Operator}

theorem comparesScalar_iff {scalar : Token} :
    ComparesScalar condition name written scalar ↔
      Compares condition name written (.scalar scalar) :=
  ⟨fun form => ⟨form.checked, form.named, form.writes, form.holds⟩,
    fun form => ⟨form.checked, form.named, form.writes, form.holds⟩⟩

theorem Compares.check_eq_nil_iff (found : scope.lookup.find? name.text = some entry)
    {operand : Operand} (form : Compares condition name written operand) :
    check scope (.branch condition) = .ok [] ↔
      written ∈ entry.rules.operators operand.side ∧
        operandFault scope entry.rules.fieldType operand = .ok none := by
  obtain ⟨field, left, named⟩ := form.named
  obtain ⟨operator, token, first, writes⟩ := form.writes
  obtain ⟨value, second, present, held⟩ := form.holds
  have read : value.operand = .ok (some operand) := (Tree.operand_eq_some_iff present).mpr held
  rw [check_condition form.checked, checkCondition, Condition.read_known left named found,
    Condition.readForm_comparison first second, read, Tree.operator?_eq_some_iff.mpr writes]
  exact comparison_check_eq_nil_iff

theorem ComparesScalar.check_eq_nil_iff (found : scope.lookup.find? name.text = some entry)
    {scalar : Token} (form : ComparesScalar condition name written scalar) :
    check scope (.branch condition) = .ok [] ↔
      written ∈ entry.rules.literal ∧
        valueFault scope.variableTable entry.rules.fieldType scalar = .ok none :=
  (comparesScalar_iff.mp form).check_eq_nil_iff found

theorem ComparesField.check_eq_nil_iff (found : scope.lookup.find? name.text = some entry)
    {other : Token} {target : FieldEntry}
    (known : scope.lookup.find? other.text = some target)
    (form : ComparesField condition name written other) :
    check scope (.branch condition) = .ok [] ↔
      written ∈ entry.rules.field ∧
        target.rules.fieldType.same entry.rules.fieldType = true := by
  obtain ⟨tree, compares, named⟩ := form
  rw [compares.check_eq_nil_iff found, operandFault, Except.ok.injEq, fieldFault?,
    Tree.identifier?_eq_some_iff.mpr named]
  simp [known, Operand.side, OperatorRules.operators]

theorem ListsScalars.check_eq_nil_iff (found : scope.lookup.find? name.text = some entry)
    {scalars : List Token} (form : ListsScalars condition name written scalars) :
    check scope (.branch condition) = .ok [] ↔
      written ∈ entry.rules.group ∧ ∀ scalar ∈ scalars,
        valueFault scope.variableTable entry.rules.fieldType scalar = .ok none := by
  obtain ⟨field, left, named⟩ := form.named
  obtain ⟨operator, token, first, writes⟩ := form.writes
  obtain ⟨list, second, held⟩ := form.lists
  rw [check_condition form.checked, checkCondition, Condition.read_known left named found,
    Condition.readForm_membership form.incomplete first second,
    Tree.operator?_eq_some_iff.mpr writes]
  refine membership_check_eq_nil_iff.trans (and_congr ?_ (listedFault_of_holdsScalar held))
  rw [groupFault?_eq_none_iff]
  simp

/-! ### Trees of each form -/

namespace Tree

variable {name operator : Token} {written : Operator}

theorem around_holdsScalar (rule : String) (scalar : Token) :
    HoldsScalar (around rule scalar) scalar :=
  ⟨by simp [around], [], [], rfl, trivial, by simp⟩

theorem ofComparison_compares (identifies : name.kind = "IDENTIFIER")
    (writes : operator.kind = written.terminal) {operand : Operand}
    (operates : operand.node.IsOperand) :
    Compares (ofComparison name operator operand) name written operand where
  checked := rfl
  named := ⟨_, child?_eq_some_iff.mp rfl, around_names identifies _⟩
  writes := ⟨_, _, child?_eq_some_iff.mp rfl, around_writes writes _⟩
  holds := by
    refine ⟨_, child?_eq_some_iff.mp rfl, ?_, [], [], rfl, operates, by simp⟩
    cases operand <;> simp [Operand.node]

theorem ofMembership_lists (identifies : name.kind = "IDENTIFIER")
    (writes : operator.kind = written.terminal) (scalars : List Token) :
    ListsScalars (ofMembership name operator scalars) name written scalars where
  checked := rfl
  named := ⟨_, child?_eq_some_iff.mp rfl, around_names identifies _⟩
  incomplete := .inl (child?_eq_none_iff.mp rfl)
  writes := ⟨_, _, child?_eq_some_iff.mp rfl, around_writes writes _⟩
  lists := by
    refine ⟨_, child?_eq_some_iff.mp rfl, ?_⟩
    rw [values_around, List.forall₂_map_left_iff, List.forall₂_same]
    exact fun scalar _ => around_holdsScalar "value" scalar

end Tree

end WorkItemQuery
