import WorkItemQuery.Proofs.Check.Environment
import WorkItemQuery.Proofs.Lookup.LastWins
import WorkItemQuery.Proofs.Tree.Written

/-!
# Order and redundancy of the known fields

A query is checked alike against lists of fields in which every name has the same owner: against any
order of fields that share no name, and without a field all of whose names later fields have. Main
statement: `metadata_order_and_redundancy_disregarded`.
-/

namespace WorkItemQuery

theorem checkFields_of_owners {fields others : List FieldDescriptor}
    (usable : ∀ field ∈ fields, field.Usable) (otherUsable : ∀ field ∈ others, field.Usable)
    (owners : ∀ key, FieldLookup.owner? fields key = FieldLookup.owner? others key)
    (table : VariableTable) (query : Node) :
    checkFields table fields query = checkFields table others query := by
  obtain ⟨lookup, built, found⟩ := FieldLookup.build_of_usable usable
  obtain ⟨other, otherBuilt, otherFound⟩ := FieldLookup.build_of_usable otherUsable
  have agree : Scope.AgreesOn ⟨lookup, table⟩ ⟨other, table⟩ query.tokens :=
    { rules := fun name _ _ => by rw [found, otherFound, owners]
      types := fun _ _ _ => rfl }
  rw [checkFields, checkFields, built, otherBuilt]
  exact check_of_agreesOn agree

theorem metadata_order_and_redundancy_disregarded (table : VariableTable) (query : Node)
    (fields : List FieldDescriptor) (usable : ∀ field ∈ fields, field.Usable) :
    (fields.Pairwise (fun left right => left.keys.Disjoint right.keys) →
      ∀ others, fields.Perm others →
        checkFields table fields query = checkFields table others query) ∧
    ∀ before field after, fields = before ++ field :: after →
      (∀ key ∈ field.keys, ∃ later ∈ after, key ∈ later.keys) →
      checkFields table fields query = checkFields table (before ++ after) query := by
  constructor
  · intro apart others reordered
    have otherUsable : ∀ field ∈ others, field.Usable := fun field member =>
      usable field (reordered.mem_iff.mpr member)
    exact checkFields_of_owners usable otherUsable (FieldLookup.owner?_of_perm reordered apart)
      table query
  · rintro before field after rfl overridden
    have within : before ++ after ⊆ before ++ field :: after :=
      ((List.sublist_cons_self field after).append_left before).subset
    have otherUsable : ∀ field ∈ before ++ after, field.Usable := fun other member =>
      usable other (within member)
    exact checkFields_of_owners usable otherUsable (FieldLookup.owner?_of_overridden overridden)
      table query

namespace Metadata

def field (name referenceName : String) (type : FieldType) : FieldDescriptor where
  name := .text name
  referenceName := .text referenceName
  declaredType := .known type

def title : FieldDescriptor :=
  field "Title" "System.Title" .string

def effort : FieldDescriptor :=
  field "Effort" "Scheduling.Effort" .integer

/-- Has its name from the one field and its reference name from the other. -/
def mixed : FieldDescriptor :=
  field "EFFORT" "system.title" .html

def equals : Token :=
  .startingAt 9 "EQUALS" "="

def other : Token :=
  .startingAt 12 "IDENTIFIER" "System.Title"

/-- `[Effort] = [System.Title]` -/
def query : Node :=
  .branch (.ofComparison (.startingAt 0 "IDENTIFIER" "Effort") equals
    (.field (.around "field" other)))

theorem usable {fields : List FieldDescriptor} (within : fields ⊆ [title, effort, mixed]) :
    ∀ known ∈ fields, known.Usable := by
  intro known member
  have among := within member
  simp only [List.mem_cons, List.not_mem_nil, or_false] at among
  rcases among with rfl | rfl | rfl <;> exact ⟨rfl, rfl, .inr ⟨_, rfl⟩⟩

end Metadata

open Metadata in
theorem mixed_field_overridden :
    let wrongType := Diagnostic.atToken other (Message.expectedField (.known .integer))
    let noOperation := Diagnostic.atToken equals (Message.noOperation "Effort" .field)
    checkFields VariableTable.predefined [title, effort] query = .ok [wrongType] ∧
      checkFields VariableTable.predefined [effort, title] query = .ok [wrongType] ∧
      checkFields VariableTable.predefined [mixed, title, effort] query = .ok [wrongType] ∧
      checkFields VariableTable.predefined [title, effort, mixed] query = .ok [noOperation] := by
  intro wrongType noOperation
  have checked : checkFields VariableTable.predefined [title, effort] query = .ok [wrongType] := rfl
  have apart : title.keys.Disjoint effort.keys := List.disjoint_left.mpr (by decide)
  have overridden : ∀ key ∈ mixed.keys, ∃ later ∈ [title, effort], key ∈ later.keys := by decide
  obtain ⟨reordered, -⟩ := metadata_order_and_redundancy_disregarded VariableTable.predefined query
    [title, effort] (usable (by simp))
  obtain ⟨-, reduced⟩ := metadata_order_and_redundancy_disregarded VariableTable.predefined query
    [mixed, title, effort] (usable (by simp))
  refine ⟨checked, ?_, ?_, rfl⟩
  · exact (reordered (List.pairwise_pair.mpr apart) _ (.swap effort title [])).symm.trans checked
  · exact (reduced [] mixed [title, effort] rfl overridden).trans checked

end WorkItemQuery
