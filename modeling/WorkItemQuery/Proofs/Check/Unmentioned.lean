import WorkItemQuery.Proofs.Check.Environment
import WorkItemQuery.Proofs.Lookup.LastWins
import WorkItemQuery.Proofs.Tree.Written

/-!
# What a query does not mention

Fields and variables that a query does not mention make no difference to its check: of the
surroundings it reads nothing but the rules of the names and the types of the variables that stand
in it. Main statement: `surroundings_read_at_mentioned_names`.
-/

namespace WorkItemQuery

open Text

section Unmentioned

variable {table : VariableTable} {query : Node}

theorem checkFields_of_unmentioned {field : FieldDescriptor} (usable : field.Usable)
    (unmentioned : ∀ name ∈ query.tokens, name.kind = "IDENTIFIER" →
      lowercase name.text ∉ field.keys) (before after : List FieldDescriptor) :
    checkFields table (before ++ field :: after) query =
      checkFields table (before ++ after) query := by
  rw [checkFields, checkFields]
  rcases (FieldLookup.build_insert usable before after).error_or_ok with
    ⟨error, failed, same⟩ | ⟨lookup, other, built, otherBuilt, found⟩
  · rw [failed, same]
  · have agree : Scope.AgreesOn ⟨lookup, table⟩ ⟨other, table⟩ query.tokens :=
      { rules := fun name member identifies => by
          rw [found name.text (unmentioned name member identifies)]
        types := fun _ _ _ => rfl }
    rw [built, otherBuilt]
    exact check_of_agreesOn agree

theorem check_of_unmentioned {name : String}
    (unmentioned : ∀ token ∈ query.tokens, token.kind = "VARIABLE" → lowercase token.text ≠ name)
    (lookup : FieldLookup) (type : DeclaredType) :
    check ⟨lookup, table.set name type⟩ query = check ⟨lookup, table⟩ query := by
  refine check_of_agreesOn { rules := fun _ _ _ => rfl, types := fun token member mentions => ?_ }
  have other : (name == lowercase token.text) = false :=
    beq_false_of_ne (unmentioned token member mentions).symm
  simp only [VariableTable.typeOf?, OrderedMap.get?_set, other, Bool.false_eq_true, if_false]

end Unmentioned

/-- A check gives the same, an error included, in all surroundings that agree on the names in the
query. So a usable field that it does not mention can be added among any fields, and a variable that
it does not mention to any table. -/
theorem surroundings_read_at_mentioned_names (query : Node) :
    (∀ scope other : Scope, scope.AgreesOn other query.tokens →
      check scope query = check other query) ∧
    (∀ table field before after, FieldDescriptor.Usable field →
      (∀ name ∈ query.tokens, name.kind = "IDENTIFIER" → lowercase name.text ∉ field.keys) →
      checkFields table (before ++ field :: after) query =
        checkFields table (before ++ after) query) ∧
    ∀ (lookup : FieldLookup) (table : VariableTable) name type,
      (∀ token ∈ query.tokens, token.kind = "VARIABLE" → lowercase token.text ≠ name) →
      check ⟨lookup, table.set name type⟩ query = check ⟨lookup, table⟩ query := by
  refine ⟨fun _ _ => check_of_agreesOn, ?_, ?_⟩
  · intro table field before after usable unmentioned
    exact checkFields_of_unmentioned usable unmentioned before after
  · intro lookup table name type unmentioned
    exact check_of_unmentioned unmentioned lookup type

namespace Limit

def effort : FieldDescriptor where
  name := .text "Effort"
  referenceName := .text "Scheduling.Effort"
  declaredType := .known .integer

def title : FieldDescriptor where
  name := .text "Title"
  referenceName := .text "System.Title"
  declaredType := .known .string

def name : Token :=
  .startingAt 0 "IDENTIFIER" "Effort"

def equals : Token :=
  .startingAt 9 "EQUALS" "="

def limit : Token :=
  .startingAt 11 "VARIABLE" "@Limit"

/-- `[Effort] = @Limit` -/
def query : Node :=
  .branch (.ofComparison name equals (.scalar limit))

def narrow : Scope where
  lookup := ⟨⟨[("effort", .typed .integer)]⟩⟩
  variableTable := ⟨[("@limit", .known .string)]⟩

/-- Has another entry with the same rules, and more besides. -/
def wide : Scope where
  lookup := ⟨⟨[("title", .linkType), ("effort", .custom 3 FieldType.integer.rules)]⟩⟩
  variableTable := ⟨[("@me", .known .string), ("@limit", .known .string)]⟩

theorem forall_token {property : Token → Prop} (left : property name) (middle : property equals)
    (right : property limit) : ∀ token ∈ query.tokens, property token := by
  intro token member
  have among : token = name ∨ token = equals ∨ token = limit := by
    simpa [query, Tree.ofComparison, Tree.around, Operand.node, Node.tokens, Tree.tokens, tokensOf]
      using member
  rcases among with rfl | rfl | rfl
  · exact left
  · exact middle
  · exact right

theorem agree : narrow.AgreesOn wide query.tokens where
  rules := forall_token (fun _ => rfl) (fun _ => rfl) (fun _ => rfl)
  types := forall_token (fun _ => rfl) (fun _ => rfl) (fun _ => rfl)

end Limit

open Limit in
theorem wider_surroundings_disregarded :
    let wrongKind := Diagnostic.atToken limit (Message.expectedValue .number)
    check narrow query = .ok [wrongKind] ∧ check wide query = .ok [wrongKind] ∧
      checkFields narrow.variableTable [title, effort] query = .ok [wrongKind] ∧
      check ⟨narrow.lookup, narrow.variableTable.set "@me" (.known .string)⟩ query =
        .ok [wrongKind] := by
  intro wrongKind
  obtain ⟨agreed, fields, types⟩ := surroundings_read_at_mentioned_names query
  have usable : title.Usable := ⟨rfl, rfl, .inr ⟨_, rfl⟩⟩
  refine ⟨rfl, ?_, ?_, ?_⟩
  · exact (agreed narrow wide agree).symm.trans rfl
  · refine (fields narrow.variableTable title [] [effort] usable ?_).trans rfl
    exact forall_token (fun _ => by decide +kernel) nofun nofun
  · refine (types narrow.lookup narrow.variableTable "@me" (.known .string) ?_).trans rfl
    exact forall_token nofun nofun (fun _ => by decide +kernel)

end WorkItemQuery
