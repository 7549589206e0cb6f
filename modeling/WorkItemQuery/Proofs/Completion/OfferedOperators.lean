import WorkItemQuery.Completion
import WorkItemQuery.Proofs.Check.Forms

/-!
# Offered operators are the accepted ones

What completion lists for a field is what checking accepts: the operators against another field
under labels of their own, and those against a literal or a list of literals by their display. Main
statement: `offered_operators_accepted`.
-/

namespace WorkItemQuery

namespace Operator

theorem display_injective {operator other : Operator}
    (same : operator.display = other.display) : operator = other := by
  rw [← Option.some_inj, ← displayed?_display, same, displayed?_display]

theorem fieldLabel_injective {operator other : Operator}
    (same : fieldLabel operator = fieldLabel other) : operator = other := by
  apply display_injective
  simpa [fieldLabel, ← String.toList_inj] using same

/-- A field label ends in a bracket, and no operator's display does. -/
theorem display_ne_fieldLabel (operator other : Operator) :
    operator.display ≠ fieldLabel other := by
  intro same
  have bracketed : (fieldLabel other).toList.getLast? = some ']' := by
    simp [fieldLabel]
  rw [← same] at bracketed
  revert bracketed
  cases operator <;> decide

end Operator

def operatorLabels (rules : OperatorRules) : List String :=
  (listOperators rules).map Suggestion.label

section Labels

variable {rules : OperatorRules} {operator : Operator}

theorem operatorLabels_eq :
    operatorLabels rules =
      (rules.literal ++ rules.group).map Operator.display ++ rules.field.map fieldLabel := by
  rw [operatorLabels, listOperators, List.map_append, List.map_map, List.map_map]
  rfl

theorem fieldLabel_mem_iff : fieldLabel operator ∈ operatorLabels rules ↔ operator ∈ rules.field := by
  rw [operatorLabels_eq, List.mem_append, List.mem_map, List.mem_map]
  constructor
  · rintro (⟨other, -, same⟩ | ⟨other, legal, same⟩)
    · exact absurd same (other.display_ne_fieldLabel operator)
    · exact Operator.fieldLabel_injective same ▸ legal
  · intro legal
    exact .inr ⟨operator, legal, rfl⟩

theorem display_mem_iff :
    operator.display ∈ operatorLabels rules ↔
      operator ∈ rules.literal ∨ operator ∈ rules.group := by
  rw [operatorLabels_eq, List.mem_append, List.mem_map, List.mem_map, ← List.mem_append]
  constructor
  · rintro (⟨other, legal, same⟩ | ⟨other, -, same⟩)
    · exact Operator.display_injective same ▸ legal
    · exact absurd same.symm (operator.display_ne_fieldLabel other)
  · intro legal
    exact .inl ⟨operator, legal, rfl⟩

end Labels

theorem DeclaredType.valueKind_eq_ok_iff {declared : DeclaredType} {kind : ValueKind} :
    declared.valueKind = .ok kind ↔ ∃ type, declared = .known type ∧ type.valueKind = kind := by
  cases declared with
  | known type => simp [valueKind, lookUp]
  | unknown value unnamed =>
      rw [valueKind, lookUp]
      split <;> simp

theorem valueFault_of_literalKind {table : VariableTable} {expected : DeclaredType}
    {kind : ValueKind} {literal : Token} (valued : expected.valueKind = .ok kind)
    (written : literal.literalKind? = some kind) :
    valueFault table expected literal = .ok none := by
  obtain ⟨type, rfl, same⟩ := DeclaredType.valueKind_eq_ok_iff.mp valued
  have constant : ¬ literal.kind = "VARIABLE" := by
    intro mentions
    have listed := ValueKind.ofTerminal?_eq_some_iff.mp written
    rw [mentions] at listed
    exact variable_not_mem_terminals kind listed
  rw [valueFault_of_literal constant, Except.ok.injEq, kindFault?_eq_none_iff, written, same]

/-- Of a field whose values have a kind, an operator is listed with the field label exactly if it is
accepted against a field of the same entry, and by its display exactly if it is accepted against a
literal of that kind or against a list of such literals. A label tells the operator and whether a
field stands on the right. -/
theorem offered_operators_accepted (scope : Scope) {entry : FieldEntry} {kind : ValueKind}
    (valued : entry.rules.fieldType.valueKind = .ok kind) (operator : Operator) :
    (∀ (condition : Tree) (name other : Token),
      scope.lookup.find? name.text = some entry → scope.lookup.find? other.text = some entry →
      ComparesField condition name operator other →
        (check scope (.branch condition) = .ok [] ↔
          fieldLabel operator ∈ operatorLabels entry.rules)) ∧
    (∀ (comparison membership : Tree) (name other literal : Token) (literals : List Token),
      scope.lookup.find? name.text = some entry → scope.lookup.find? other.text = some entry →
      ComparesScalar comparison name operator literal → literal.literalKind? = some kind →
      ListsScalars membership other operator literals →
      (∀ listed ∈ literals, listed.literalKind? = some kind) →
        (operator.display ∈ operatorLabels entry.rules ↔
          check scope (.branch comparison) = .ok [] ∨
            check scope (.branch membership) = .ok [])) ∧
    ∀ other : Operator, operator.display ≠ fieldLabel other ∧
      (operator.display = other.display → operator = other) ∧
      (fieldLabel operator = fieldLabel other → operator = other) := by
  refine ⟨?_, ?_, fun other => ⟨operator.display_ne_fieldLabel other,
    Operator.display_injective, Operator.fieldLabel_injective⟩⟩
  · intro condition name other found known compares
    obtain ⟨type, declared, -⟩ := DeclaredType.valueKind_eq_ok_iff.mp valued
    have same : entry.rules.fieldType.same entry.rules.fieldType = true := by
      rw [declared]
      exact DeclaredType.same_known_iff.mpr rfl
    rw [compares.check_eq_nil_iff found known, fieldLabel_mem_iff]
    exact and_iff_left same
  · intro comparison membership name other literal literals found known compares written lists each
    have alone := compares.check_eq_nil_iff found
    have listed := lists.check_eq_nil_iff known
    rw [and_iff_left (valueFault_of_literalKind valued written)] at alone
    rw [and_iff_left fun scalar member => valueFault_of_literalKind valued (each scalar member)]
      at listed
    rw [display_mem_iff, alone, listed]

namespace Effort

/-- Legal against literals, fields and lists are three different sets of operators. -/
def entry : FieldEntry :=
  .custom 0 ⟨.known .integer, [.equals, .isIn], [.lessThan], [.under, .isIn]⟩

def scope : Scope where
  lookup := ⟨⟨[("effort", entry)]⟩⟩
  variableTable := VariableTable.predefined

def name : Token :=
  .startingAt 0 "IDENTIFIER" "Effort"

def capital : Token :=
  .startingAt 12 "IDENTIFIER" "EFFORT"

def under : Token :=
  .startingAt 9 "UNDER" "Under"

def five : Token :=
  .startingAt 15 "NUMBER" "5"

/-- `[Effort] < [EFFORT]` -/
def against : Tree :=
  .ofComparison name (.startingAt 9 "LESS_THAN" "<") (.field (.around "field" capital))

/-- `[Effort] Under 5` -/
def single : Tree :=
  .ofComparison name under (.scalar five)

/-- `[Effort] Under (5, 5)` -/
def listing : Tree :=
  .ofMembership name under [five, .startingAt 18 "NUMBER" "5"]

end Effort

open Effort in
theorem under_offered_for_lists_alone :
    entry.rules.fieldType.valueKind = .ok .number ∧
      check scope (.branch against) = .ok [] ∧
      fieldLabel .lessThan ∈ operatorLabels entry.rules ∧
      check scope (.branch single) =
        .ok [.atToken under (Message.validComparisons [.equals, .isIn])] ∧
      check scope (.branch listing) = .ok [] ∧
      Operator.under.display ∈ operatorLabels entry.rules := by
  have valued : entry.rules.fieldType.valueKind = .ok .number := rfl
  have compared : check scope (.branch against) = .ok [] := rfl
  have listed : check scope (.branch listing) = .ok [] := rfl
  obtain ⟨fields, -, -⟩ := offered_operators_accepted scope valued .lessThan
  obtain ⟨-, scalars, -⟩ := offered_operators_accepted scope valued .under
  refine ⟨valued, compared, ?_, rfl, listed, ?_⟩
  · refine (fields against name capital rfl rfl ?_).mp compared
    exact ⟨_, Tree.ofComparison_compares rfl rfl rfl, Tree.around_names rfl _⟩
  · refine (scalars single listing name name five [five, .startingAt 18 "NUMBER" "5"] rfl rfl ?_ rfl
      ?_ ?_).mpr (.inr listed)
    · exact comparesScalar_iff.mpr (Tree.ofComparison_compares rfl rfl trivial)
    · exact Tree.ofMembership_lists rfl rfl _
    · intro literal member
      rcases List.mem_pair.mp member with rfl | rfl <;> rfl

end WorkItemQuery
