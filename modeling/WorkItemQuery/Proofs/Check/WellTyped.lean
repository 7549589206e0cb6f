import WorkItemQuery.Check
import WorkItemQuery.Proofs.Tree.Parts

/-!
# Well-typed conditions

When a condition is well typed. The judgement speaks of the tree and of what its names stand for;
how a condition is read or checked does not occur in it.
-/

namespace WorkItemQuery

open Text

/-- Every variable has a field type or none at all. -/
def VariableTable.Typed (table : VariableTable) : Prop :=
  ∀ entry ∈ table.entries, entry.2.isNull = true ∨ ∃ type, entry.2 = .known type

theorem VariableTable.predefined_typed : predefined.Typed := by
  simp [Typed, predefined, DeclaredType.isNull]

inductive ScalarTyped (table : VariableTable) (kind : ValueKind) (token : Token) : Prop where
  | unknownVariable (mentions : token.kind = "VARIABLE")
      (untyped : ∀ type, table.get? (lowercase token.text) = some type → type.isNull = true)
  | typedVariable {type : FieldType} (mentions : token.kind = "VARIABLE")
      (held : table.get? (lowercase token.text) = some (.known type))
      (same : type.valueKind = kind)
  | literal (writes : (token.kind, kind) ∈ ValueKind.terminals)

/-- If a field is known at all, it is of the type. -/
def FieldTyped (lookup : FieldLookup) (type : FieldType) (field : Tree) : Prop :=
  ∀ name entry, Names field name → lookup.find? name.text = some entry →
    entry.rules.fieldType = .known type

inductive ComparisonTyped (scope : Scope) (rules : OperatorRules) (type : FieldType)
    (operator value : Tree) : Prop where
  | withoutOperator (unwritten : WithoutOperator operator)
  | withoutOperand (empty : WithoutOperand value)
  | field {token : Token} {written : Operator} {target : Tree}
      (writes : Writes operator token written) (holds : Holds value (.field target))
      (legal : written ∈ rules.field) (typed : FieldTyped scope.lookup type target)
  | scalar {token : Token} {written : Operator} {literal : Token}
      (writes : Writes operator token written) (holds : Holds value (.scalar literal))
      (legal : written ∈ rules.literal)
      (typed : ScalarTyped scope.variableTable type.valueKind literal)

/-- A value in a list. Of a field only a nameless remnant will do. -/
inductive ListedTyped (table : VariableTable) (type : FieldType) (value : Tree) : Prop where
  | withoutOperand (empty : WithoutOperand value)
  | remnant {field : Tree} (holds : Holds value (.field field)) (nameless : Nameless field)
  | scalar {literal : Token} (holds : Holds value (.scalar literal))
      (typed : ScalarTyped table type.valueKind literal)

inductive MembershipTyped (table : VariableTable) (rules : OperatorRules) (type : FieldType)
    (operator list : Tree) : Prop where
  | listed {token : Token} {written : Operator} (writes : Writes operator token written)
      (legal : written ∈ rules.group)
      (typed : ∀ value, .branch value ∈ list.children → value.rule = "value" →
        ListedTyped table type value)

inductive FormTyped (scope : Scope) (rules : OperatorRules) (type : FieldType)
    (condition : Tree) : Prop where
  | comparison {operator value : Tree} (first : FirstChild condition "operator" operator)
      (second : FirstChild condition "value" value)
      (typed : ComparisonTyped scope rules type operator value)
  | membership {operator list : Tree}
      (incomplete : Lacks condition "operator" ∨ Lacks condition "value")
      (first : FirstChild condition "in_operator" operator)
      (second : FirstChild condition "value_list" list)
      (typed : MembershipTyped scope.variableTable rules type operator list)
  | formless (incomplete : Lacks condition "operator" ∨ Lacks condition "value")
      (unlisted : Lacks condition "in_operator" ∨ Lacks condition "value_list")

inductive WellTyped (scope : Scope) (condition : Tree) : Prop where
  | fieldless (absent : Lacks condition "field")
  | nameless {field : Tree} (first : FirstChild condition "field" field)
      (unnamed : Nameless field)
  | unknown {field : Tree} {name : Token} (first : FirstChild condition "field" field)
      (named : Names field name) (missing : scope.lookup.find? name.text = none)
  | known {field : Tree} {name : Token} {entry : FieldEntry} {type : FieldType}
      (first : FirstChild condition "field" field) (named : Names field name)
      (found : scope.lookup.find? name.text = some entry)
      (declared : entry.rules.fieldType = .known type)
      (typed : FormTyped scope entry.rules type condition)

section Inversion

variable {scope : Scope} {rules : OperatorRules} {type : FieldType} {operator value : Tree}
  {token : Token} {written : Operator}

theorem comparisonTyped_field_iff {target : Tree} (writes : Writes operator token written)
    (holds : Holds value (.field target)) :
    ComparisonTyped scope rules type operator value ↔
      written ∈ rules.field ∧ FieldTyped scope.lookup type target := by
  constructor
  · intro comparison
    cases comparison with
    | withoutOperator unwritten => exact absurd unwritten writes.not_withoutOperator
    | withoutOperand empty => exact absurd empty holds.not_withoutOperand
    | field other held legal typed =>
        cases held.unique holds
        exact ⟨other.operator_eq writes ▸ legal, typed⟩
    | scalar _ held _ _ => cases held.unique holds
  · intro allowed
    obtain ⟨legal, typed⟩ := allowed
    exact .field writes holds legal typed

theorem comparisonTyped_scalar_iff {literal : Token} (writes : Writes operator token written)
    (holds : Holds value (.scalar literal)) :
    ComparisonTyped scope rules type operator value ↔
      written ∈ rules.literal ∧ ScalarTyped scope.variableTable type.valueKind literal := by
  constructor
  · intro comparison
    cases comparison with
    | withoutOperator unwritten => exact absurd unwritten writes.not_withoutOperator
    | withoutOperand empty => exact absurd empty holds.not_withoutOperand
    | field _ held _ _ => cases held.unique holds
    | scalar other held legal typed =>
        cases held.unique holds
        exact ⟨other.operator_eq writes ▸ legal, typed⟩
  · intro allowed
    obtain ⟨legal, typed⟩ := allowed
    exact .scalar writes holds legal typed

theorem listedTyped_field_iff {table : VariableTable} {field : Tree}
    (holds : Holds value (.field field)) : ListedTyped table type value ↔ Nameless field := by
  constructor
  · intro listed
    cases listed with
    | withoutOperand empty => exact absurd empty holds.not_withoutOperand
    | remnant held nameless =>
        cases held.unique holds
        exact nameless
    | scalar held _ => cases held.unique holds
  · exact .remnant holds

theorem listedTyped_scalar_iff {table : VariableTable} {literal : Token}
    (holds : Holds value (.scalar literal)) :
    ListedTyped table type value ↔ ScalarTyped table type.valueKind literal := by
  constructor
  · intro listed
    cases listed with
    | withoutOperand empty => exact absurd empty holds.not_withoutOperand
    | remnant held _ => cases held.unique holds
    | scalar held typed =>
        cases held.unique holds
        exact typed
  · exact .scalar holds

variable {condition : Tree}

theorem formTyped_comparison_iff (first : FirstChild condition "operator" operator)
    (second : FirstChild condition "value" value) :
    FormTyped scope rules type condition ↔ ComparisonTyped scope rules type operator value := by
  have complete : ¬ (Lacks condition "operator" ∨ Lacks condition "value") :=
    first.neither_lacks second
  constructor
  · intro form
    cases form with
    | comparison other another typed =>
        cases other.unique first
        cases another.unique second
        exact typed
    | membership incomplete _ _ _ => exact absurd incomplete complete
    | formless incomplete _ => exact absurd incomplete complete
  · exact .comparison first second

theorem formTyped_membership_iff {list : Tree}
    (incomplete : Lacks condition "operator" ∨ Lacks condition "value")
    (first : FirstChild condition "in_operator" operator)
    (second : FirstChild condition "value_list" list) :
    FormTyped scope rules type condition ↔
      MembershipTyped scope.variableTable rules type operator list := by
  constructor
  · intro form
    cases form with
    | comparison other another _ =>
        exact absurd incomplete (other.neither_lacks another)
    | membership _ other another typed =>
        cases other.unique first
        cases another.unique second
        exact typed
    | formless _ unlisted =>
        exact absurd unlisted (first.neither_lacks second)
  · exact .membership incomplete first second

theorem wellTyped_known_iff {field : Tree} {name : Token} {entry : FieldEntry}
    (first : FirstChild condition "field" field) (named : Names field name)
    (found : scope.lookup.find? name.text = some entry)
    (declared : entry.rules.fieldType = .known type) :
    WellTyped scope condition ↔ FormTyped scope entry.rules type condition := by
  constructor
  · intro typed
    cases typed with
    | fieldless absent => exact absurd absent first.not_lacks
    | nameless other unnamed =>
        cases other.unique first
        exact absurd unnamed named.not_nameless
    | unknown other again missing =>
        cases other.unique first
        cases again.unique named
        rw [found] at missing
        cases missing
    | known other again held same form =>
        cases other.unique first
        cases again.unique named
        cases found.symm.trans held
        cases declared.symm.trans same
        exact form
  · exact .known first named found declared

end Inversion

end WorkItemQuery
