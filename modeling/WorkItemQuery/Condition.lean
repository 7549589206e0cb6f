import WorkItemQuery.Lookup
import WorkItemQuery.Tree.Parts

/-!
# Conditions

What a condition's tree says, once its left-hand field has been looked up. A comparison has an
operator and an operand; a membership has an operator and a list of values, which are read later,
one by one. A condition whose field is unknown, or which has neither form, is ignored.
-/

namespace WorkItemQuery

inductive Condition where
  | ignored
  /-- A comparison whose operator or operand is missing. -/
  | incomplete (name : Token)
  | comparison (rules : OperatorRules) (name : Token) (operator : Token × Operator)
      (operand : Operand)
  | membership (rules : OperatorRules) (name : Token) (operator : Option (Token × Operator))
      (values : List Tree)

/-- The name of a condition's left-hand field, and its rules if the field is known. -/
def Tree.subject? (tree : Tree) (lookup : FieldLookup) : Option (Token × OperatorRules) := do
  let field ← tree.child? "field"
  let name ← field.identifier?
  let entry ← lookup.find? name.text
  return (name, entry.rules)

namespace Condition

def ofComparison (rules : OperatorRules) (name : Token) (operator : Option (Token × Operator))
    (operand : Option Operand) : Condition :=
  match operator, operand with
  | some operator, some operand => .comparison rules name operator operand
  | _, _ => .incomplete name

/-- Reads a condition about a known field. A tree with both forms is a comparison. -/
def readForm (tree : Tree) (name : Token) (rules : OperatorRules) :
    Except AnalysisError Condition :=
  match tree.child? "operator", tree.child? "value" with
  | some operator, some value =>
      value.operand.map (ofComparison rules name operator.operator?)
  | _, _ =>
      match tree.child? "in_operator", tree.child? "value_list" with
      | some operator, some list => .ok (.membership rules name operator.operator? list.values)
      | _, _ => .ok .ignored

def read (lookup : FieldLookup) (tree : Tree) : Except AnalysisError Condition :=
  match tree.subject? lookup with
  | some (name, rules) => readForm tree name rules
  | none => .ok .ignored

def records : Condition → List LogRecord
  | .incomplete name => [.skippedCondition name.text]
  | _ => []

end Condition

end WorkItemQuery
