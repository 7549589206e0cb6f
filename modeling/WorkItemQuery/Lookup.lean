import WorkItemQuery.Compatibility
import WorkItemQuery.Field
import WorkItemQuery.LogRecord

/-!
# Field lookup

Finds the rules of a field by its display name or its reference name, whatever the case. Where two
fields share a name, the later one has it.
-/

namespace WorkItemQuery

open Text

/-- The keys of a built lookup are lowercase names. -/
structure FieldLookup where
  entries : OrderedMap String FieldEntry

namespace FieldLookup

def linkTypeName : String :=
  "System.Links.LinkType"

def find? (lookup : FieldLookup) (name : String) : Option FieldEntry :=
  lookup.entries.get? (lowercase name)

def findValue (lookup : FieldLookup) (name : RawValue) : Except AnalysisError (Option FieldEntry) :=
  match name.text? with
  | some name => .ok (lookup.find? name)
  | none => .error .nameNotText

/-- A value that is no text is no field's name. -/
def containsValue (lookup : FieldLookup) (name : RawValue) : Bool :=
  match name.text? with
  | some name => lookup.entries.contains (lowercase name)
  | none => false

def keys (lookup : FieldLookup) : List String :=
  lookup.entries.keys

def size (lookup : FieldLookup) : Nat :=
  lookup.entries.size

/-- Whether two names lead to one entry, or neither leads to any. -/
def sameEntry (lookup : FieldLookup) (left right : RawValue) : Except AnalysisError Bool := do
  match ← lookup.findValue left, ← lookup.findValue right with
  | some left, some right => .ok (left.isSame right)
  | none, none => .ok true
  | _, _ => .ok false

def nameKey (name : RawValue) : Except AnalysisError String :=
  match name.text? with
  | some name => .ok (lowercase name)
  | none => .error .nameNotText

end FieldLookup

namespace FieldDescriptor

def isLinkType (field : FieldDescriptor) : Bool :=
  field.referenceName.text? == some FieldLookup.linkTypeName

/-- The entry that a field's names lead to; the declared type of the link type does not matter. -/
def entry (field : FieldDescriptor) : Except AnalysisError FieldEntry :=
  if field.isLinkType then .ok .linkType else field.declaredType.entry

end FieldDescriptor

namespace FieldLookup

def addField (entries : OrderedMap String FieldEntry) (field : FieldDescriptor) :
    Except AnalysisError (OrderedMap String FieldEntry) := do
  let entry ← field.entry
  let name ← nameKey field.name
  let referenceName ← nameKey field.referenceName
  .ok ((entries.set name entry).set referenceName entry)

def build (fields : List FieldDescriptor) : Except AnalysisError FieldLookup := do
  let entries ← fields.foldlM addField OrderedMap.empty
  .ok ⟨entries⟩

/-- Builds a lookup and tells the log, which hears nothing of a failure. -/
def buildLogged (fields : List FieldDescriptor) : Logged (Except AnalysisError FieldLookup) :=
  match build fields with
  | .ok lookup => ⟨[.builtLookup lookup.size], .ok lookup⟩
  | .error error => ⟨[], .error error⟩

end FieldLookup

end WorkItemQuery
