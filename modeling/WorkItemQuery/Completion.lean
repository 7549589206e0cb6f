import WorkItemQuery.Compatibility
import WorkItemQuery.Tree
import WorkItemQuery.Variables

/-!
# Completion

What can be typed next: the variables of a type, and the operators of a field.
-/

namespace WorkItemQuery

inductive SuggestionKind where
  | variable
  | operator
  deriving DecidableEq

namespace SuggestionKind

def all : List SuggestionKind :=
  [.variable, .operator]

def name : SuggestionKind → String
  | .variable => "variable"
  | .operator => "operator"

def named? (name : String) : Option SuggestionKind :=
  all.find? (·.name == name)

end SuggestionKind

/-- Without a text of its own to insert, a suggestion inserts its label. -/
structure Suggestion where
  label : String
  kind : SuggestionKind
  insertText : Option String
  deriving DecidableEq

structure Position where
  line : Option Int
  column : Option Int
  deriving DecidableEq

/-- What the parser knows at the cursor: the kinds of tokens it accepts next, the token before the
cursor, and the type of the field that is being compared. -/
structure CompletionContext where
  expected : List String
  previous : Option Token
  inCondition : Bool
  fieldType : Option DeclaredType

namespace CompletionContext

/-- The type that suggested variables must have. -/
def typeFilter (context : CompletionContext) : Option DeclaredType :=
  if context.inCondition then context.fieldType else none

/-- Whether the token before the cursor closes a group, so that no variable can follow. -/
def afterGroup (context : CompletionContext) : Bool :=
  match context.previous with
  | some token => token.kind == "GROUP" || token.kind == "RPAR"
  | none => false

def acceptsVariable (context : CompletionContext) : Bool :=
  context.expected.contains "VARIABLE" && !context.afterGroup

def atVariableEnd (context : CompletionContext) (position : Position) : Bool :=
  match context.previous with
  | some token =>
      token.kind == "VARIABLE" && position.line == token.span.endLine &&
        position.column == token.span.endColumn
  | none => false

end CompletionContext

def listVariables (filter : Option DeclaredType) (table : VariableTable) : List Suggestion :=
  let suggested := table.entries.filter fun (_, type) =>
    match filter with
    | none => true
    | some wanted => type.same wanted
  suggested.map fun (name, _) => { label := name, kind := .variable, insertText := none }

/-- The suggestions, followed by variables where the parser accepts one. -/
def includeVariables (context : CompletionContext) (table : VariableTable)
    (suggestions : List Suggestion) : List Suggestion :=
  if context.acceptsVariable then
    suggestions ++ listVariables context.typeFilter table
  else suggestions

def includeVariablesTimes (context : CompletionContext) (table : VariableTable) :
    Nat → List Suggestion → List Suggestion
  | 0, suggestions => suggestions
  | times + 1, suggestions =>
      includeVariablesTimes context table times (includeVariables context table suggestions)

def withoutMarker (name : String) : String :=
  match name.toList with
  | first :: rest => if first == variableMarker then String.ofList rest else name
  | [] => name

/-- Replacements for the variable that is being typed; the marker has been typed already. -/
def currentVariableSuggestions? (context : CompletionContext) (position : Position)
    (table : VariableTable) : Option (List Suggestion) :=
  if context.atVariableEnd position then
    some ((listVariables context.typeFilter table).map fun suggestion =>
      { suggestion with insertText := some (withoutMarker suggestion.label) })
  else none

def operatorSuggestion (label : String) : Suggestion where
  label
  kind := .operator
  insertText := none

def fieldLabel (operator : Operator) : String :=
  operator.display ++ " [Field]"

def listOperators (rules : OperatorRules) : List Suggestion :=
  ((rules.literal ++ rules.group).map fun operator => operatorSuggestion operator.display) ++
    rules.field.map fun operator => operatorSuggestion (fieldLabel operator)

end WorkItemQuery
