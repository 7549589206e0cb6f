import WorkItemQuery.RawValue.Written
import WorkItemQuery.Text.Lowercase

/-!
# Field types

The types a field can be declared with, and what stands where a type is expected: one of them, or a
raw value that names none.
-/

namespace WorkItemQuery

open Text

inductive FieldType where
  | string
  | integer
  | dateTime
  | plainText
  | html
  | treePath
  | history
  | double
  | guid
  | boolean
  | identity
  | picklistString
  | picklistInteger
  | picklistDouble
  deriving DecidableEq

namespace FieldType

def all : List FieldType :=
  [.string, .integer, .dateTime, .plainText, .html, .treePath, .history, .double, .guid, .boolean,
    .identity, .picklistString, .picklistInteger, .picklistDouble]

/-- The name of a type in a metadata payload. -/
def name : FieldType → String
  | .string => "string"
  | .integer => "integer"
  | .dateTime => "dateTime"
  | .plainText => "plainText"
  | .html => "html"
  | .treePath => "treePath"
  | .history => "history"
  | .double => "double"
  | .guid => "guid"
  | .boolean => "boolean"
  | .identity => "identity"
  | .picklistString => "picklistString"
  | .picklistInteger => "picklistInteger"
  | .picklistDouble => "picklistDouble"

def named? (name : String) : Option FieldType :=
  all.find? (·.name == name)

def ofRaw? : RawValue → Option FieldType
  | .text name => named? name
  | _ => none

/-- The type that a payload or a configuration names, in any case. -/
def read? : RawValue → Option FieldType
  | .text name => all.find? fun type => lowercase type.name == lowercase name
  | _ => none

theorem mem_all (type : FieldType) : type ∈ all := by
  cases type <;> decide

@[simp] theorem named?_name (type : FieldType) : named? type.name = some type := by
  cases type <;> rfl

theorem name_of_named? {name : String} {type : FieldType} (found : named? name = some type) :
    type.name = name := by
  simpa using List.find?_some found

def notAType (value : RawValue) : String :=
  value.notIn "FieldType"

end FieldType

inductive DeclaredType where
  | known (type : FieldType)
  | unknown (value : RawValue) (unnamed : FieldType.ofRaw? value = none)

namespace DeclaredType

def ofRaw (value : RawValue) : DeclaredType :=
  match named : FieldType.ofRaw? value with
  | some type => .known type
  | none => .unknown value named

def isNull : DeclaredType → Bool
  | .known _ => false
  | .unknown value _ => value.isNull

def same : DeclaredType → DeclaredType → Bool
  | .known left, .known right => left == right
  | .unknown left _, .unknown right _ => left.same right
  | _, _ => false

def shown : DeclaredType → String
  | .known type => type.name
  | .unknown value _ => value.shown

end DeclaredType

end WorkItemQuery
