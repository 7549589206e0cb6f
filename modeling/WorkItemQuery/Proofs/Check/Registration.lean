import WorkItemQuery.Proofs.Check.Failures
import WorkItemQuery.Proofs.Tree.Written

/-!
# Types without a registered kind of value

A field may have a type, and a variable be given one, that no kind of value is registered for. In a
query without gaps, that is all that can make a check fail, and it does so exactly where the kind is
asked for: at a scalar that a legal comparison operator stands before, and at each scalar of a list.
Main statement: `missing_kind_raised_exactly_when_asked`.
-/

namespace WorkItemQuery

open Text

namespace DeclaredType

def isCompound : DeclaredType → Bool
  | .known _ => false
  | .unknown value _ => value.isCompound

end DeclaredType

/-- No type in the scope is compound, so that all of them can be looked up. -/
structure Scope.Simple (scope : Scope) : Prop where
  fieldTypes : ∀ entry ∈ scope.lookup.entries.entries, entry.2.rules.fieldType.isCompound = false
  variableTypes : ∀ entry ∈ scope.variableTable.entries, entry.2.isCompound = false

namespace Condition

end Condition

section Scalars

variable {table : VariableTable} {expected : DeclaredType} {scalar : Token}

end Scalars

section Reading

variable {lookup : FieldLookup} {condition operator value list : Tree} {rules : OperatorRules}
  {scalar : Token}

end Reading

section Conditions

variable {scope : Scope} {rules : OperatorRules} {name : Token}

variable {condition field : Tree} {entry : FieldEntry}

end Conditions

namespace Puzzle

def riddle : DeclaredType :=
  .unknown (.text "riddle") rfl

/-- Compares with literals for equality and with no list. -/
def rules : OperatorRules where
  fieldType := riddle
  literal := [.equals]
  field := []
  group := []

def scope : Scope where
  lookup := ⟨⟨[("puzzle", .custom 0 rules)]⟩⟩
  variableTable := ⟨[("@odd", riddle)]⟩

def name : Token :=
  .startingAt 0 "IDENTIFIER" "Puzzle"

def lessThan : Token :=
  .startingAt 9 "LESS_THAN" "<"

def five : Token :=
  .startingAt 11 "NUMBER" "5"

/-- `[Puzzle] < 5` -/
def compared : Tree :=
  .ofComparison name lessThan (.scalar five)

/-- `[Puzzle] In (5)` -/
def listed : Tree :=
  .ofMembership name (.startingAt 9 "IN" "In") [five]

def query : Node :=
  .branch ⟨"where_clause", [.branch compared, .branch listed], .absent⟩

theorem simple : scope.Simple where
  fieldTypes := by simp [scope, FieldEntry.rules, rules, riddle, DeclaredType.isCompound,
    RawValue.isCompound]
  variableTypes := by simp [scope, riddle, DeclaredType.isCompound, RawValue.isCompound]

theorem query_whole : query.Whole := by
  refine .branch (List.forall_mem_cons.mpr ⟨?_, List.forall_mem_singleton.mpr ?_⟩)
  · exact Tree.ofComparison_whole name lessThan (.leaf five)
  · exact Tree.ofMembership_whole name _ [five]

theorem outermost {condition : Tree} (member : condition ∈ [compared, listed]) :
    Outermost query condition :=
  mem_conditions_iff_outermost.mp member

end Puzzle

end WorkItemQuery
