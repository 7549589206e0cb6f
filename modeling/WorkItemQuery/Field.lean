import WorkItemQuery.FieldType
import WorkItemQuery.RawValue.Mapping
import WorkItemQuery.Report

/-!
# Fields

A known field, and how it is read from a metadata payload. A payload must name the field, its
reference name and a field type; the two names are taken as they stand.
-/

namespace WorkItemQuery

structure FieldDescriptor where
  name : RawValue
  referenceName : RawValue
  declaredType : DeclaredType

abbrev Payload := RawMapping

inductive MetadataError where
  | missingKey (payload : Payload) (key : String)
  | unknownType (payload : Payload) (type : RawValue)

namespace Payload

def cited (payload : Payload) : String :=
  let members := payload.entries.map fun (key, value) => key.cited ++ ": " ++ value.cited
  "\x7b" ++ RawValue.commaSeparated members ++ "\x7d"

def member (payload : Payload) (key : String) : Except MetadataError RawValue :=
  match payload.get? (.text key) with
  | some value => .ok value
  | none => .error (.missingKey payload key)

end Payload

namespace MetadataError

def cause : MetadataError → String
  | .missingKey _ key => Text.quoted key
  | .unknownType _ type => FieldType.notAType type

def payload : MetadataError → Payload
  | .missingKey payload _ => payload
  | .unknownType payload _ => payload

def report (error : MetadataError) : Report :=
  .make .invalidFieldMetadata "invalid field metadata"
    ("cannot read field payload " ++ error.payload.cited ++ ": " ++ error.cause)

end MetadataError

def FieldDescriptor.ofPayload (payload : Payload) : Except MetadataError FieldDescriptor := do
  let name ← payload.member "name"
  let referenceName ← payload.member "referenceName"
  let type ← payload.member "type"
  match FieldType.read? type with
  | some type => .ok { name, referenceName, declaredType := .known type }
  | none => .error (.unknownType payload type)

/-- A field as a source hands it over: described outright, or as the pairs of a payload. -/
inductive FieldSource where
  | described (field : FieldDescriptor)
  | packed (pairs : List (RawValue × RawValue))

inductive FieldSourceError where
  /-- The pairs are no payload: one of the keys is compound. -/
  | compoundKey
  | metadata (error : MetadataError)

namespace FieldSource

def read : FieldSource → Except FieldSourceError FieldDescriptor
  | .described field => .ok field
  | .packed pairs =>
      match RawMapping.ofPairs? pairs with
      | none => .error .compoundKey
      | some payload => (FieldDescriptor.ofPayload payload).mapError .metadata

/-- Reads fields up to the first that cannot be read: those before it, and what is wrong with it. -/
def readUntilError : List FieldSource → List FieldDescriptor × Option FieldSourceError
  | [] => ([], none)
  | source :: rest =>
      match source.read with
      | .error error => ([], some error)
      | .ok field =>
          let later := readUntilError rest
          (field :: later.1, later.2)

/-- Reads all fields, or gives what is wrong with the first that cannot be read. -/
def readAll (sources : List FieldSource) : Except FieldSourceError (List FieldDescriptor) :=
  match readUntilError sources with
  | (fields, none) => .ok fields
  | (_, some error) => .error error

end FieldSource

end WorkItemQuery
