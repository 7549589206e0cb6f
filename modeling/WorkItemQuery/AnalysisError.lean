import WorkItemQuery.RawValue.Written
import WorkItemQuery.Report

/-!
# Analysis errors

Why a field lookup cannot be built or a query cannot be checked. None of them is a fault of the
query's author: a type has no rules, a name is no text, or the tree is not of the expected shape.
-/

namespace WorkItemQuery

inductive AnalysisError where
  | noRules (type : RawValue)
  | noValueKind (type : RawValue)
  /-- A list or an object where a type is looked up. -/
  | compoundType
  | nameNotText
  /-- A node of another shape than the one that is read. -/
  | wrongNode
  /-- A rule without tokens and without a position of its own. -/
  | noPosition (rule : String)
  /-- A rule without tokens whose own position has missing parts. -/
  | partialPosition

namespace AnalysisError

def unmapped (details : String) : Report :=
  .make .unmappedFieldType "unmapped field type" details

/-- The report of an error that a user may see. -/
def report? : AnalysisError → Option Report
  | .noRules type => some (unmapped ("no compatibility entry for field type " ++ type.cited))
  | .noValueKind type => some (unmapped ("no value kind for field type " ++ type.cited))
  | _ => none

def noPositionMessage (rule : String) : String :=
  "rule " ++ Text.quoted rule ++ " has no tokens and no propagated position"

end AnalysisError

end WorkItemQuery
