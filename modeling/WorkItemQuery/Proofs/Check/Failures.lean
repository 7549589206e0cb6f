import WorkItemQuery.Proofs.Check.Faults
import WorkItemQuery.Proofs.Check.Walk
import WorkItemQuery.Proofs.Condition
import WorkItemQuery.Proofs.Lookup.Built

/-!
# When checking fails

A query that a recovering parser has left gaps in is checked all the same, unless a gap stands where
an operand is looked for. Where all types are known, no other error is ever raised: a diagnostic is
put only at a token, or at a field that has one. Main statement: `check_eq_error_iff`.
-/

namespace WorkItemQuery

/-- A child at which the search for an operand ends. -/
def Node.EndsSearch (node : Node) : Prop :=
  node = .absent ∨ node.IsOperand

/-- A gap stands among the children before any operand. -/
def GapFirst (value : Tree) : Prop :=
  IsFirst Node.EndsSearch value.children .absent

def ListsGap (list : Tree) : Prop :=
  ∃ value, .branch value ∈ list.children ∧ value.rule = "value" ∧ GapFirst value

/-- A form with a gap for its operand or for that of a value in its list. -/
inductive GappedForm (condition : Tree) : Prop where
  | comparison {operator value : Tree} (first : FirstChild condition "operator" operator)
      (second : FirstChild condition "value" value) (gap : GapFirst value)
  | membership {operator list : Tree}
      (incomplete : Lacks condition "operator" ∨ Lacks condition "value")
      (first : FirstChild condition "in_operator" operator)
      (second : FirstChild condition "value_list" list) (gap : ListsGap list)

/-- A condition about a known field. Of another condition nothing but the name is read. -/
def IsAboutKnownField (lookup : FieldLookup) (condition : Tree) : Prop :=
  ∃ field name entry, FirstChild condition "field" field ∧ Names field name ∧
    lookup.find? name.text = some entry

section Forms

variable {condition operator value list : Tree}

theorem gappedForm_comparison_iff (first : FirstChild condition "operator" operator)
    (second : FirstChild condition "value" value) : GappedForm condition ↔ GapFirst value := by
  constructor
  · intro gapped
    cases gapped with
    | comparison _ other gap => exact other.unique second ▸ gap
    | membership incomplete _ _ _ =>
        exact absurd incomplete (first.neither_lacks second)
  · exact .comparison first second

theorem gappedForm_membership_iff
    (incomplete : Lacks condition "operator" ∨ Lacks condition "value")
    (first : FirstChild condition "in_operator" operator)
    (second : FirstChild condition "value_list" list) : GappedForm condition ↔ ListsGap list := by
  constructor
  · intro gapped
    cases gapped with
    | comparison other another _ =>
        exact absurd incomplete (other.neither_lacks another)
    | membership _ _ other gap => exact other.unique second ▸ gap
  · exact .membership incomplete first second

theorem not_gappedForm (incomplete : Lacks condition "operator" ∨ Lacks condition "value")
    (unlisted : Lacks condition "in_operator" ∨ Lacks condition "value_list") :
    ¬ GappedForm condition := by
  intro gapped
  cases gapped with
  | comparison first second _ =>
      exact absurd incomplete (first.neither_lacks second)
  | membership _ first second _ =>
      exact absurd unlisted (first.neither_lacks second)

end Forms

section Operands

variable {error : AnalysisError}

theorem Tree.operandAmong_eq_error_iff {nodes : List Node} :
    operandAmong nodes = .error error ↔
      error = .wrongNode ∧ IsFirst Node.EndsSearch nodes .absent := by
  induction nodes with
  | nil => simp [operandAmong, IsFirst]
  | cons node rest ih =>
      cases node with
      | absent =>
          have here : Node.EndsSearch .absent := .inl rfl
          simp [operandAmong, isFirst_cons_of_holds here, eq_comm]
      | leaf token =>
          have here : Node.EndsSearch (.leaf token) := .inr trivial
          simp [operandAmong, isFirst_cons_of_holds here]
      | branch tree =>
          rw [operandAmong]
          by_cases field : tree.rule = "field"
          · have here : Node.EndsSearch (.branch tree) := .inr field
            simp [isFirst_cons_of_holds here, isField, field]
          · have later : ¬ Node.EndsSearch (.branch tree) := by
              simp [Node.EndsSearch, Node.IsOperand, field]
            simpa [isFirst_cons_of_not later, isField, field] using ih

theorem Tree.operand_eq_error_iff {value : Tree} :
    value.operand = .error error ↔ error = .wrongNode ∧ GapFirst value :=
  operandAmong_eq_error_iff

end Operands

section Total

variable {table : VariableTable} {scope : Scope} {type : FieldType} {rules : OperatorRules}
  {name : Token}

theorem valueFault_total (typed : table.Typed) (token : Token) :
    ∃ fault, valueFault table (.known type) token = .ok fault := by
  by_cases mentions : token.kind = "VARIABLE"
  · cases held : table.typeOf? token.text with
    | none => exact ⟨_, valueFault_of_unknown mentions held⟩
    | some declared =>
        obtain ⟨known, rfl⟩ := typed.typeOf? held
        exact ⟨_, valueFault_of_variable mentions held⟩
  · exact ⟨_, valueFault_of_literal mentions⟩

theorem operandFault_total (typed : scope.variableTable.Typed) (operand : Operand) :
    ∃ fault, operandFault scope (.known type) operand = .ok fault := by
  cases operand with
  | scalar token => exact valueFault_total typed token
  | field tree => exact ⟨_, rfl⟩

theorem comparison_check_total (typed : scope.variableTable.Typed)
    (declared : rules.fieldType = .known type) (operator : Option (Token × Operator))
    (operand : Option Operand) :
    ∃ diagnostics, (Condition.ofComparison rules name operator operand).check scope =
      .ok diagnostics := by
  cases operator with
  | none => exact ⟨[], rfl⟩
  | some operator =>
      cases operand with
      | none => exact ⟨[], rfl⟩
      | some operand =>
          rw [Condition.ofComparison, Condition.check, declared]
          cases operatorFault? rules name operator operand.side with
          | some fault => exact ⟨[fault], rfl⟩
          | none =>
              obtain ⟨fault, found⟩ := operandFault_total typed operand
              exact ⟨fault.toList, by rw [found]; rfl⟩

/-- A field that has a name has a place to report it at. -/
theorem atNode_total {field : Tree} {name : Token} (named : field.identifier? = some name)
    (message : String) :
    ∃ diagnostic, Diagnostic.atNode (.branch field) message = .ok diagnostic := by
  obtain ⟨span, spanned⟩ := Tree.span_total (Tree.identifier?_eq_some_iff.mp named).mem
  exact ⟨_, map_eq_ok_iff.mpr ⟨span, spanned, rfl⟩⟩

/-- A field among listed values can be reported, unless it is passed over. -/
theorem listedField_total (field : Tree) :
    ∃ fault, (if field.identifier?.isSome then
      (Diagnostic.atNode (.branch field) Message.literalsOnly).map some else .ok none) =
        .ok fault := by
  cases named : field.identifier? with
  | none => exact ⟨none, rfl⟩
  | some name =>
      obtain ⟨diagnostic, placed⟩ := atNode_total named Message.literalsOnly
      exact ⟨some diagnostic, map_eq_ok_iff.mpr ⟨diagnostic, placed, rfl⟩⟩

end Total

section Errors

variable {table : VariableTable} {scope : Scope} {type : FieldType} {rules : OperatorRules}
  {name : Token} {error : AnalysisError}

theorem listedFault_eq_error_iff (typed : table.Typed) {value : Tree} :
    listedFault table (.known type) value = .error error ↔
      error = .wrongNode ∧ GapFirst value := by
  rw [← Tree.operand_eq_error_iff]
  refine bind_eq_error_iff_of_total fun operand _ => ?_
  cases operand with
  | none => exact ⟨none, rfl⟩
  | some operand =>
      cases operand with
      | scalar token => exact valueFault_total typed token
      | field tree => exact listedField_total tree

theorem membership_check_eq_error_iff (typed : scope.variableTable.Typed)
    (declared : rules.fieldType = .known type) {operator : Option (Token × Operator)}
    {list : Tree} :
    (Condition.membership rules name operator list.values).check scope = .error error ↔
      error = .wrongNode ∧ ListsGap list := by
  have fails_iff (value : Tree) :
      Fails (listedFault scope.variableTable (.known type)) value ↔ GapFirst value := by
    simp [Fails, listedFault_eq_error_iff typed]
  rw [Condition.check, declared, bind_eq_error_iff_of_total fun faults _ => ⟨_, rfl⟩,
    mapM_eq_error_iff_of_only fun value raised failed =>
      ((listedFault_eq_error_iff typed).mp failed).1]
  simp only [fails_iff, Tree.mem_values_iff, and_assoc, ListsGap]

theorem form_check_eq_error_iff (typed : scope.variableTable.Typed)
    (declared : rules.fieldType = .known type) {condition : Tree} :
    (do (← Condition.readForm condition name rules).check scope) = .error error ↔
      error = .wrongNode ∧ GappedForm condition := by
  rcases both_or_either_lacks condition "operator" "value" with
    ⟨operator, value, first, second⟩ | incomplete
  · -- the operand is read before the operator is judged, and nothing after that can fail
    rw [Condition.readForm_comparison first second, gappedForm_comparison_iff first second,
      bind_eq_error_iff_of_total, map_eq_error_iff, Tree.operand_eq_error_iff]
    intro read found
    obtain ⟨operand, _, rfl⟩ := map_eq_ok_iff.mp found
    exact comparison_check_total typed declared operator.operator? operand
  · rcases both_or_either_lacks condition "in_operator" "value_list" with
      ⟨operator, list, first, second⟩ | unlisted
    · rw [Condition.readForm_membership incomplete first second,
        gappedForm_membership_iff incomplete first second]
      exact membership_check_eq_error_iff typed declared
    · rw [Condition.readForm_formless incomplete unlisted]
      refine iff_of_false (fun failed => by cases failed) ?_
      exact fun failed => not_gappedForm incomplete unlisted failed.2

theorem checkCondition_eq_error_iff (typed : scope.variableTable.Typed)
    (declared : ∀ name entry, scope.lookup.find? name = some entry →
      ∃ type, entry.rules.fieldType = .known type) {condition : Tree} :
    checkCondition scope condition = .error error ↔
      error = .wrongNode ∧ IsAboutKnownField scope.lookup condition ∧ GappedForm condition := by
  rw [checkCondition, Condition.read]
  cases subject : condition.subject? scope.lookup with
  | none =>
      refine iff_of_false (fun failed => by cases failed) ?_
      intro failed
      obtain ⟨-, ⟨field, name, entry, first, named, found⟩, -⟩ := failed
      rw [Tree.subject?_eq_some_iff.mpr ⟨field, entry, first, named, found, rfl⟩] at subject
      cases subject
  | some known =>
      obtain ⟨name, rules⟩ := known
      obtain ⟨field, entry, first, named, found, rfl⟩ := Tree.subject?_eq_some_iff.mp subject
      obtain ⟨type, fieldType⟩ := declared name.text entry found
      have about : IsAboutKnownField scope.lookup condition :=
        ⟨field, name, entry, first, named, found⟩
      simpa only [about, true_and] using form_check_eq_error_iff typed fieldType

end Errors

/-- A check fails exactly if there is nothing to check or some outermost condition about a known
field has a gap for an operand; the error is then that of reading the gap. -/
theorem check_eq_error_iff {fields : List FieldDescriptor} {lookup : FieldLookup}
    (built : FieldLookup.build fields = .ok lookup) {table : VariableTable} (typed : table.Typed)
    {query : Node} {error : AnalysisError} :
    check ⟨lookup, table⟩ query = .error error ↔
      error = .wrongNode ∧ (query = .absent ∨ ∃ condition, Outermost query condition ∧
        IsAboutKnownField lookup condition ∧ GappedForm condition) := by
  have declared (name : String) (entry : FieldEntry) (found : lookup.find? name = some entry) :
      ∃ type, entry.rules.fieldType = .known type :=
    (FieldLookup.find?_isBuiltin built found).fieldType
  have fails_iff (condition : Tree) (raised : AnalysisError) :
      checkCondition ⟨lookup, table⟩ condition = .error raised ↔
        raised = .wrongNode ∧ IsAboutKnownField lookup condition ∧ GappedForm condition :=
    checkCondition_eq_error_iff typed declared
  cases query with
  | absent => simp [check, visit, Visit.result, Visit.ofError, eq_comm]
  | leaf token =>
      refine iff_of_false (fun failed => by cases failed) ?_
      intro failed
      rcases failed.2 with missing | ⟨condition, outermost, _⟩
      · cases missing
      · cases outermost
  | branch query =>
      have member_iff (condition : Tree) :
          condition ∈ (Node.branch query).conditions ↔ Outermost (.branch query) condition :=
        mem_conditions_iff_outermost
      rw [check_branch, map_eq_error_iff, mapM_eq_error_iff_of_only fun condition raised failed =>
        ((fails_iff condition raised).mp failed).1]
      simp only [Fails, fails_iff, exists_eq_left, ← member_iff, reduceCtorEq, false_or]
      exact Iff.rfl

namespace LostOperand

def field : FieldDescriptor where
  name := .text "Title"
  referenceName := .text "System.Title"
  declaredType := .known .string

def lookup : FieldLookup where
  entries := ⟨[("title", .typed .string), ("system.title", .typed .string)]⟩

def leaf (kind text : String) : Node :=
  .leaf { kind, text, span := ⟨none, none, none, none, none, none⟩ }

/-- `[Title] In ('a', )`, with a gap where the second value was. -/
def condition : Tree where
  rule := "condition"
  children :=
    [.branch ⟨"field", [leaf "IDENTIFIER" "Title"], .absent⟩,
     .branch ⟨"in_operator", [leaf "IN" "In"], .absent⟩,
     .branch ⟨"value_list",
       [.branch ⟨"value", [leaf "STRING" "'a'"], .absent⟩,
        .branch ⟨"value", [.absent], .absent⟩], .absent⟩]
  extent := .absent

def query : Node :=
  .branch ⟨"where_clause", [.absent, .branch condition], .absent⟩

end LostOperand

open LostOperand in
theorem lost_operand_in_list_unreadable :
    FieldLookup.build [field] = .ok lookup ∧ VariableTable.predefined.Typed ∧
      check ⟨lookup, VariableTable.predefined⟩ query = .error .wrongNode ∧
      ∃ condition, Outermost query condition ∧ IsAboutKnownField lookup condition ∧
        GappedForm condition := by
  have built : FieldLookup.build [field] = .ok lookup := rfl
  have typed := VariableTable.predefined_typed
  have failed : check ⟨lookup, VariableTable.predefined⟩ query = .error .wrongNode := rfl
  obtain ⟨-, missing | unreadable⟩ := (check_eq_error_iff built typed).mp failed
  · cases missing
  · exact ⟨built, typed, failed, unreadable⟩

end WorkItemQuery
