import WorkItemQuery.FieldType
import WorkItemQuery.RawValue.Mapping
import WorkItemQuery.Report

/-!
# Variables

The variables that a query may use and their types. A configured table is read pair by pair: a name
starts with the variable marker and has more to it, and a type is named in any case.
-/

namespace WorkItemQuery

open Text

abbrev VariableTable := OrderedMap String DeclaredType

/-- The character that every variable name starts with. -/
def variableMarker : Char := '@'

namespace VariableTable

def predefined : VariableTable where
  entries :=
    [("@me", .known .string),
     ("@project", .known .string),
     ("@currentiteration", .known .treePath),
     ("@today", .known .dateTime),
     ("@startofday", .known .dateTime),
     ("@startofweek", .known .dateTime),
     ("@startofmonth", .known .dateTime),
     ("@startofyear", .known .dateTime)]

/-- The type of a variable as a query spells it. A variable without a type is unknown. -/
def typeOf? (table : VariableTable) (text : String) : Option DeclaredType :=
  (table.get? (lowercase text)).filter (!·.isNull)

end VariableTable

inductive VariableTableError where
  | badName (name : RawValue)
  | unknownType (name : String) (type : RawValue)

namespace VariableTableError

def details : VariableTableError → String
  | .badName name =>
      "variable name " ++ name.cited ++ " must start with " ++
        quoted (String.singleton variableMarker)
  | .unknownType name type =>
      "variable " ++ quoted name ++ " has unknown type " ++ type.cited

/-- What was wrong with the type, if the type was at fault. -/
def cause? : VariableTableError → Option String
  | .badName _ => none
  | .unknownType _ type => some (FieldType.notAType type)

def report (error : VariableTableError) : Report :=
  .make .invalidVariableTable "invalid variable table" error.details

end VariableTableError

def isVariableName (name : String) : Bool :=
  match name.toList with
  | first :: _ :: _ => first == variableMarker
  | _ => false

namespace VariableTable

def addPair (table : VariableTable) (pair : RawValue × RawValue) :
    Except VariableTableError VariableTable :=
  match pair.1.text? with
  | none => .error (.badName pair.1)
  | some name =>
      if isVariableName name then
        match FieldType.read? pair.2 with
        | some type => .ok (table.set (lowercase name) (.known type))
        | none => .error (.unknownType name pair.2)
      else .error (.badName pair.1)

/-- Reads a configured table, whose keys come in order; the first bad pair is the error. -/
def load (configured : RawMapping) : Except VariableTableError VariableTable :=
  configured.entries.foldlM addPair OrderedMap.empty

end VariableTable

end WorkItemQuery
