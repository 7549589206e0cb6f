/-!
# Reports

An error that a user may see comes as a report: a message that gives nothing away and details for
the log. Without details the message stands in for them.
-/

namespace WorkItemQuery

inductive ReportKind where
  | general
  | unmappedFieldType
  | invalidFieldMetadata
  | invalidVariableTable
  | fieldFetch
  deriving DecidableEq

/-- A kind and the kinds that contain it, from the narrowest. -/
def ReportKind.lineage : ReportKind → List ReportKind
  | .general => [.general]
  | kind => [kind, .general]

structure Report where
  kind : ReportKind
  message : String
  details : String
  deriving DecidableEq

def Report.make (kind : ReportKind) (message details : String) : Report :=
  { kind, message, details := if details = "" then message else details }

end WorkItemQuery
