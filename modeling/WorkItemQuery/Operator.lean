import WorkItemQuery.RawValue

/-!
# Operators

The comparison operators of the query language, the right-hand sides they compare against, and the
kinds of literal values.
-/

namespace WorkItemQuery

inductive Operator where
  | equals
  | notEquals
  | greaterThan
  | lessThan
  | greaterOrEqual
  | lessOrEqual
  | inGroup
  | ever
  | contains
  | containsWords
  | under
  | isIn
  deriving DecidableEq

namespace Operator

def all : List Operator :=
  [.equals, .notEquals, .greaterThan, .lessThan, .greaterOrEqual, .lessOrEqual, .inGroup, .ever,
    .contains, .containsWords, .under, .isIn]

/-- The spelling of an operator in messages and completions. -/
def display : Operator → String
  | .equals => "="
  | .notEquals => "<>"
  | .greaterThan => ">"
  | .lessThan => "<"
  | .greaterOrEqual => ">="
  | .lessOrEqual => "<="
  | .inGroup => "In Group"
  | .ever => "Was Ever"
  | .contains => "Contains"
  | .containsWords => "Contains Words"
  | .under => "Under"
  | .isIn => "In"

/-- The kind of the token that writes an operator in a query. -/
def terminal : Operator → String
  | .equals => "EQUALS"
  | .notEquals => "NOT_EQUALS"
  | .greaterThan => "GREATER_THAN"
  | .lessThan => "LESS_THAN"
  | .greaterOrEqual => "GREATER_OR_EQ"
  | .lessOrEqual => "LESS_OR_EQ"
  | .inGroup => "IN_GROUP"
  | .ever => "EVER"
  | .contains => "CONTAINS"
  | .containsWords => "CONTAINS_WORDS"
  | .under => "UNDER"
  | .isIn => "IN"

def displayed? (display : String) : Option Operator :=
  all.find? (·.display == display)

def ofTerminal? (terminal : String) : Option Operator :=
  all.find? (·.terminal == terminal)

def ordered : List Operator :=
  [.equals, .notEquals, .greaterThan, .lessThan, .greaterOrEqual, .lessOrEqual]

theorem mem_all (operator : Operator) : operator ∈ all := by
  cases operator <;> decide

@[simp] theorem displayed?_display (operator : Operator) :
    displayed? operator.display = some operator := by
  cases operator <;> rfl

@[simp] theorem ofTerminal?_terminal (operator : Operator) :
    ofTerminal? operator.terminal = some operator := by
  cases operator <;> rfl

end Operator

inductive RightSide where
  | literal
  | field
  | group
  deriving DecidableEq

namespace RightSide

def all : List RightSide :=
  [.literal, .field, .group]

def name : RightSide → String
  | .literal => "literal"
  | .field => "field"
  | .group => "group"

def named? (name : String) : Option RightSide :=
  all.find? (·.name == name)

end RightSide

inductive ValueKind where
  | string
  | number
  | boolean
  deriving DecidableEq

namespace ValueKind

def all : List ValueKind :=
  [.string, .number, .boolean]

def name : ValueKind → String
  | .string => "STRING"
  | .number => "NUMBER"
  | .boolean => "BOOLEAN"

def named? (name : String) : Option ValueKind :=
  all.find? (·.name == name)

/-- The kinds of literal tokens with the kind of value each writes. -/
def terminals : List (String × ValueKind) :=
  [("STRING", .string), ("NUMBER", .number), ("TRUE", .boolean), ("FALSE", .boolean)]

def ofTerminal? (terminal : String) : Option ValueKind :=
  terminals.lookup terminal

end ValueKind

end WorkItemQuery
