import WorkItemQuery.Field
import WorkItemQuery.Proofs.Except
import WorkItemQuery.Proofs.FieldType

/-!
# Reading field payloads

A payload describes a field if it has the three keys of one and names a type. What else it has, and
in which order, makes no difference. Otherwise it is refused for the first key that it lacks, or for
its type.
-/

namespace WorkItemQuery

namespace Payload

/-- The keys that a payload must have, in the order in which they are read. -/
def requiredKeys : List String :=
  ["name", "referenceName", "type"]

def Lacks (payload : Payload) (key : String) : Prop :=
  payload.get? (.text key) = none

structure Describes (payload : Payload) (field : FieldDescriptor) : Prop where
  name : payload.get? (.text "name") = some field.name
  referenceName : payload.get? (.text "referenceName") = some field.referenceName
  type : ∃ value type, payload.get? (.text "type") = some value ∧
    FieldType.IsSpelledBy type value ∧ field.declaredType = .known type

section Reading

variable {payload : Payload} {key : String} {value : RawValue} {field : FieldDescriptor}
  {error : MetadataError}

end Reading

section Order

variable {payload other : Payload} {key : String}

theorem Describes.of_same {field : FieldDescriptor} (describes : payload.Describes field)
    (same : ∀ key ∈ requiredKeys, payload.get? (.text key) = other.get? (.text key)) :
    other.Describes field := by
  simp only [requiredKeys, List.forall_mem_cons] at same
  obtain ⟨name, referenceName, type, -⟩ := same
  exact ⟨name ▸ describes.name, referenceName ▸ describes.referenceName, type ▸ describes.type⟩

end Order

end Payload

end WorkItemQuery
