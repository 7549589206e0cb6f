import WorkItemQuery.Condition
import WorkItemQuery.Diagnostic
import WorkItemQuery.Variables

/-!
# Checking a query

A query is walked from its root in source order, and every condition that the walk comes to is
checked on its own: its operator must be legal for the field and the right-hand side, and the
right-hand side must have the field's type. What is inside a condition is not walked. The walk stops
at the first condition that raises an error and keeps what the conditions before it gave.
-/

namespace WorkItemQuery

structure Scope where
  lookup : FieldLookup
  variableTable : VariableTable

namespace Message

def noOperation (field : String) (side : RightSide) : String :=
  "There is no valid operation for " ++ field ++ " and " ++ side.name

def validComparisons (operators : List Operator) : String :=
  "Valid comparisons are " ++ ", ".intercalate (operators.map Operator.display)

def noGroupComparisons (field : String) : String :=
  field ++ " does not support group comparisons"

def expectedValue (kind : ValueKind) : String :=
  "Expected value of type " ++ kind.name

def expectedField (type : DeclaredType) : String :=
  "Expected field of type " ++ type.shown

def literalsOnly : String :=
  "Values in list must be literals"

end Message

def operatorFault? (rules : OperatorRules) (name : Token) (operator : Token × Operator)
    (side : RightSide) : Option Diagnostic :=
  let legal := rules.operators side
  if legal.isEmpty then some (.atToken operator.1 (Message.noOperation name.text side))
  else if operator.2 ∈ legal then none
  else some (.atToken operator.1 (Message.validComparisons legal))

/-- What is wrong with the operator of a membership. Without an operator the field is to blame. -/
def groupFault? (rules : OperatorRules) (name : Token) (operator : Option (Token × Operator)) :
    Option Diagnostic :=
  let anchor := (operator.map (·.1)).getD name
  if rules.group.isEmpty then some (.atToken anchor (Message.noGroupComparisons name.text))
  else if operator.any (·.2 ∈ rules.group) then none
  else some (.atToken anchor (Message.validComparisons rules.group))

def fieldFault? (lookup : FieldLookup) (expected : DeclaredType) (target : Tree) :
    Option Diagnostic := do
  let name ← target.identifier?
  let entry ← lookup.find? name.text
  if entry.rules.fieldType.same expected then none
  else some (.atToken name (Message.expectedField expected))

def kindFault? (expected : ValueKind) (actual : Option ValueKind) (token : Token) :
    Option Diagnostic :=
  if actual = some expected then none
  else some (.atToken token (Message.expectedValue expected))

/-- What is wrong with a literal or a variable; an unknown variable is not at fault here. -/
def valueFault (table : VariableTable) (expected : DeclaredType) (token : Token) :
    Except AnalysisError (Option Diagnostic) := do
  let expectedKind ← expected.valueKind
  if token.isVariable then
    match table.typeOf? token.text with
    | none => .ok none
    | some type => .ok (kindFault? expectedKind (some (← type.valueKind)) token)
  else .ok (kindFault? expectedKind token.literalKind? token)

/-- What is wrong with a value in a list. A field is no value, but one that has lost its name is
passed over. -/
def listedFault (table : VariableTable) (expected : DeclaredType) (value : Tree) :
    Except AnalysisError (Option Diagnostic) := do
  match ← value.operand with
  | none => .ok none
  | some (.scalar token) => valueFault table expected token
  | some (.field tree) =>
      if tree.identifier?.isSome then
        (Diagnostic.atNode (.branch tree) Message.literalsOnly).map some
      else .ok none

def operandFault (scope : Scope) (expected : DeclaredType) :
    Operand → Except AnalysisError (Option Diagnostic)
  | .scalar token => valueFault scope.variableTable expected token
  | .field tree => .ok (fieldFault? scope.lookup expected tree)

/-- The operand of a comparison is looked at only if the operator is legal; the values of a
membership are looked at in any case. -/
def Condition.check (scope : Scope) : Condition → Except AnalysisError (List Diagnostic)
  | .ignored => .ok []
  | .incomplete _ => .ok []
  | .comparison rules name operator operand =>
      match operatorFault? rules name operator operand.side with
      | some fault => .ok [fault]
      | none => (operandFault scope rules.fieldType operand).map Option.toList
  | .membership rules name operator values => do
      let faults ← values.mapM (listedFault scope.variableTable rules.fieldType)
      .ok ((groupFault? rules name operator).toList ++ faults.filterMap id)

def checkCondition (scope : Scope) (tree : Tree) : Except AnalysisError (List Diagnostic) := do
  let condition ← Condition.read scope.lookup tree
  condition.check scope

def conditionRecords (scope : Scope) (tree : Tree) : List LogRecord :=
  match Condition.read scope.lookup tree with
  | .ok condition => condition.records
  | .error _ => []

/-- What checking a query gave, up to the error that stopped it. -/
structure Visit where
  diagnostics : List Diagnostic
  records : List LogRecord
  error? : Option AnalysisError

namespace Visit

def empty : Visit :=
  ⟨[], [], none⟩

def ofError (error : AnalysisError) : Visit :=
  ⟨[], [], some error⟩

def after (visit : Visit) (diagnostics : List Diagnostic) (records : List LogRecord) : Visit where
  diagnostics := diagnostics ++ visit.diagnostics
  records := records ++ visit.records
  error? := visit.error?

/-- A visit and then a later one, which does not take place if the first was stopped. -/
def andThen (visit later : Visit) : Visit :=
  match visit.error? with
  | some _ => visit
  | none => later.after visit.diagnostics visit.records

def result (visit : Visit) : Except AnalysisError (List Diagnostic) :=
  match visit.error? with
  | some error => .error error
  | none => .ok visit.diagnostics

end Visit

/-- Checks one condition on its own; if that raises an error, nothing of the condition is kept. -/
def visitCondition (scope : Scope) (tree : Tree) : Visit :=
  match checkCondition scope tree with
  | .error error => .ofError error
  | .ok diagnostics => Visit.empty.after diagnostics (conditionRecords scope tree)

mutual

/-- Walks to the conditions of a node, in source order, and no further down than them. -/
def Node.walk (scope : Scope) : Node → Visit
  | .absent => .empty
  | .leaf _ => .empty
  | .branch tree => tree.walk scope

def Tree.walk (scope : Scope) : Tree → Visit
  | ⟨rule, children, extent⟩ =>
      if isConditionRule rule then visitCondition scope ⟨rule, children, extent⟩
      else walkChildren scope children

def walkChildren (scope : Scope) : List Node → Visit
  | [] => .empty
  | node :: rest => (node.walk scope).andThen (walkChildren scope rest)

end

/-- Visits a query. A lone token has no conditions. -/
def visit (scope : Scope) : Node → Visit
  | .absent => .ofError .wrongNode
  | .leaf _ => .empty
  | .branch tree => tree.walk scope

def check (scope : Scope) (query : Node) : Except AnalysisError (List Diagnostic) :=
  (visit scope query).result

/-- Builds the lookup of the known fields and checks a query against it. -/
def checkFields (table : VariableTable) (fields : List FieldDescriptor) (query : Node) :
    Except AnalysisError (List Diagnostic) := do
  let lookup ← FieldLookup.build fields
  check ⟨lookup, table⟩ query

/-- Visits queries one after the other and gathers their diagnostics; those of the conditions before
an error stay. Each visit holds all diagnostics so far. -/
def visitAll (scope : Scope) (gathered : List Diagnostic) : List Node → List Visit
  | [] => []
  | query :: rest =>
      let visited := visit scope query
      let gathered := gathered ++ visited.diagnostics
      { visited with diagnostics := gathered } :: visitAll scope gathered rest

end WorkItemQuery
