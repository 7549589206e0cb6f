import WorkItemQuery.AnalysisError
import WorkItemQuery.FieldType
import WorkItemQuery.Operator

/-!
# Compatibility

Which operators a field may be compared with, against each kind of right-hand side, and which kind
of literal its values are. Field types fall into families that share their operators.
-/

namespace WorkItemQuery

structure OperatorRules where
  fieldType : DeclaredType
  literal : List Operator
  field : List Operator
  group : List Operator

def OperatorRules.operators (rules : OperatorRules) : RightSide → List Operator
  | .literal => rules.literal
  | .field => rules.field
  | .group => rules.group

inductive ComparisonFamily where
  | prose
  | ordered
  | string
  | truth
  | path
  deriving DecidableEq

namespace ComparisonFamily

def members : ComparisonFamily → List FieldType
  | .prose => [.html, .plainText, .history]
  | .ordered => [.double, .integer, .dateTime, .guid, .picklistInteger, .picklistDouble]
  | .string => [.string, .identity, .picklistString]
  | .truth => [.boolean]
  | .path => [.treePath]

def operators : ComparisonFamily → RightSide → List Operator
  | .prose, .literal => [.contains, .containsWords]
  | .prose, _ => []
  | .ordered, .literal => Operator.ordered ++ [.ever]
  | .ordered, .field => Operator.ordered
  | .ordered, .group => [.isIn]
  | .string, .literal => Operator.ordered ++ [.ever, .contains, .inGroup]
  | .string, .field => Operator.ordered
  | .string, .group => [.isIn]
  | .truth, .literal => [.equals, .notEquals, .ever]
  | .truth, .field => [.equals, .notEquals]
  | .truth, .group => []
  | .path, .literal => [.equals, .notEquals, .under]
  | .path, .field => []
  | .path, .group => [.isIn]

end ComparisonFamily

namespace FieldType

def family : FieldType → ComparisonFamily
  | .html | .plainText | .history => .prose
  | .double | .integer | .dateTime | .guid | .picklistInteger | .picklistDouble => .ordered
  | .string | .identity | .picklistString => .string
  | .boolean => .truth
  | .treePath => .path

theorem mem_members_family (type : FieldType) : type ∈ type.family.members := by
  cases type <;> decide

def rules (type : FieldType) : OperatorRules where
  fieldType := .known type
  literal := type.family.operators .literal
  field := type.family.operators .field
  group := type.family.operators .group

def valueKind : FieldType → ValueKind
  | .integer | .double | .picklistInteger | .picklistDouble => .number
  | .boolean => .boolean
  | .string | .dateTime | .plainText | .html | .treePath | .history | .guid | .identity
  | .picklistString => .string

/-- The types in the order in which the families list them. -/
def byFamily : List FieldType :=
  [.prose, .ordered, .string, .truth, .path].flatMap ComparisonFamily.members

end FieldType

/-- Where the rules of a field come from. Every field of one type shares one entry, the link type
has an entry of its own, and each custom entry stands for itself. -/
inductive FieldEntry where
  | typed (type : FieldType)
  | linkType
  | custom (number : Nat) (rules : OperatorRules)

namespace FieldEntry

/-- The link type compares by equality with literals and with nothing else. -/
def linkTypeRules : OperatorRules where
  fieldType := .known .string
  literal := [.equals, .notEquals]
  field := []
  group := []

def rules : FieldEntry → OperatorRules
  | .typed type => type.rules
  | .linkType => linkTypeRules
  | .custom _ rules => rules

def isSame : FieldEntry → FieldEntry → Bool
  | .typed left, .typed right => left == right
  | .linkType, .linkType => true
  | .custom left _, .custom right _ => left == right
  | _, _ => false

end FieldEntry

namespace DeclaredType

/-- Looks a declared type up in a table that has a value for each known type. -/
def lookUp {α : Type} (declared : DeclaredType) (known : FieldType → α)
    (missing : RawValue → AnalysisError) : Except AnalysisError α :=
  match declared with
  | .known type => .ok (known type)
  | .unknown value _ => if value.isCompound then .error .compoundType else .error (missing value)

def entry (declared : DeclaredType) : Except AnalysisError FieldEntry :=
  declared.lookUp .typed .noRules

def valueKind (declared : DeclaredType) : Except AnalysisError ValueKind :=
  declared.lookUp FieldType.valueKind .noValueKind

end DeclaredType

end WorkItemQuery
