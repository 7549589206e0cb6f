import WorkItemQuery.Completion
import WorkItemQuery.Proofs.Check.Forms
import WorkItemQuery.Proofs.Variables

/-!
# Offered variables pass the check

What completion offers, checking accepts: a variable suggested for a type may stand, in any
spelling, wherever a scalar may be compared with a field of that type. Main statement:
`offered_variables_accepted`.
-/

namespace WorkItemQuery

open Text

/-- A variable token that spells a variable suggested for the type, in any case. -/
def Offered (table : VariableTable) (type : FieldType) (token : Token) : Prop :=
  token.kind = "VARIABLE" ∧ ∃ suggestion ∈ listVariables (some (.known type)) table,
    lowercase token.text = lowercase suggestion.label

section Suggestions

variable {table : VariableTable} {type : FieldType} {suggestion : Suggestion}

theorem mem_listVariables_iff :
    suggestion ∈ listVariables (some (.known type)) table ↔
      ∃ name, (name, .known type) ∈ table.entries ∧
        suggestion = { label := name, kind := .variable, insertText := none } := by
  simp only [listVariables, List.mem_map, List.mem_filter, DeclaredType.same_known_iff]
  constructor
  · intro listed
    obtain ⟨⟨name, _⟩, ⟨member, rfl⟩, rfl⟩ := listed
    exact ⟨name, member, rfl⟩
  · intro held
    obtain ⟨name, member, rfl⟩ := held
    exact ⟨(name, .known type), ⟨member, rfl⟩, rfl⟩

theorem label_mem_keys {filter : Option DeclaredType}
    (listed : suggestion ∈ listVariables filter table) : suggestion.label ∈ table.keys := by
  obtain ⟨entry, member, rfl⟩ := List.mem_map.mp listed
  exact List.mem_map.mpr ⟨entry, (List.mem_filter.mp member).1, rfl⟩

theorem marker_withoutMarker {name : String} (named : isVariableName name = true) :
    String.singleton variableMarker ++ withoutMarker name = name := by
  obtain ⟨first, rest, spelled⟩ := isVariableName_iff.mp named
  rw [← String.toList_inj, withoutMarker, spelled]
  simp

theorem inserted_completes_label (normal : table.Normal) {context : CompletionContext}
    {position : Position} {suggestions : List Suggestion}
    (suggested : currentVariableSuggestions? context position table = some suggestions)
    (member : suggestion ∈ suggestions) :
    ∃ text, suggestion.insertText = some text ∧
      String.singleton variableMarker ++ text = suggestion.label := by
  rw [currentVariableSuggestions?] at suggested
  split at suggested
  case isFalse _ => cases suggested
  case isTrue _ =>
    cases suggested
    obtain ⟨listed, among, rfl⟩ := List.mem_map.mp member
    exact ⟨_, rfl, marker_withoutMarker (normal.named _ (label_mem_keys among))⟩

theorem valueFault_of_offered (normal : table.Normal) {token : Token}
    (offered : Offered table type token) : valueFault table (.known type) token = .ok none := by
  obtain ⟨mentions, suggestion, listed, same⟩ := offered
  obtain ⟨name, member, rfl⟩ := mem_listVariables_iff.mp listed
  rw [valueFault_of_variable mentions (normal.typeOf?_of_mem member same), Except.ok.injEq,
    kindFault?_eq_none_iff]

end Suggestions

section Acceptance

variable {scope : Scope} {type : FieldType} {condition : Tree} {name : Token} {entry : FieldEntry}
  {written : Operator}

theorem check_comparesScalar (normal : scope.variableTable.Normal)
    (found : scope.lookup.find? name.text = some entry)
    (declared : entry.rules.fieldType = .known type) (legal : written ∈ entry.rules.literal)
    {scalar : Token} (offered : Offered scope.variableTable type scalar)
    (compares : ComparesScalar condition name written scalar) :
    check scope (.branch condition) = .ok [] := by
  refine (compares.check_eq_nil_iff found).mpr ⟨legal, ?_⟩
  rw [declared]
  exact valueFault_of_offered normal offered

theorem check_listsScalars (normal : scope.variableTable.Normal)
    (found : scope.lookup.find? name.text = some entry)
    (declared : entry.rules.fieldType = .known type) (legal : written ∈ entry.rules.group)
    {scalars : List Token}
    (offered : ∀ scalar ∈ scalars, Offered scope.variableTable type scalar)
    (lists : ListsScalars condition name written scalars) :
    check scope (.branch condition) = .ok [] := by
  refine (lists.check_eq_nil_iff found).mpr ⟨legal, fun scalar member => ?_⟩
  rw [declared]
  exact valueFault_of_offered normal (offered scalar member)

end Acceptance

/-- Over a table that was loaded, a variable suggested for a type raises no diagnostic under any
operator that a field of the type allows, alone or in a list of any length; and what is inserted
after the marker completes the suggested name. -/
theorem offered_variables_accepted {configured : RawMapping} {table : VariableTable}
    (loaded : VariableTable.load configured = .ok table) :
    (∀ (type : FieldType) (lookup : FieldLookup) (name : Token) (entry : FieldEntry),
      lookup.find? name.text = some entry → entry.rules.fieldType = .known type →
        (∀ (condition : Tree) (written : Operator) (scalar : Token),
          ComparesScalar condition name written scalar → written ∈ entry.rules.literal →
          Offered table type scalar → check ⟨lookup, table⟩ (.branch condition) = .ok []) ∧
        (∀ (condition : Tree) (written : Operator) (scalars : List Token),
          ListsScalars condition name written scalars → written ∈ entry.rules.group →
          (∀ scalar ∈ scalars, Offered table type scalar) →
          check ⟨lookup, table⟩ (.branch condition) = .ok [])) ∧
    (∀ (context : CompletionContext) (position : Position) (suggestions : List Suggestion),
      currentVariableSuggestions? context position table = some suggestions →
      ∀ suggestion ∈ suggestions, ∃ text, suggestion.insertText = some text ∧
        String.singleton variableMarker ++ text = suggestion.label) := by
  have normal : table.Normal := VariableTable.load_normal loaded
  refine ⟨?_, ?_⟩
  · intro type lookup name entry found declared
    refine ⟨?_, ?_⟩
    · intro condition written scalar compares legal offered
      exact check_comparesScalar normal found declared legal offered compares
    · intro condition written scalars lists legal offered
      exact check_listsScalars normal found declared legal offered lists
  · intro context position suggestions suggested suggestion member
    exact inserted_completes_label normal suggested member

namespace FinalSigma

def configured : RawMapping where
  entries := [(.text "@Οδός", .text "integer"), (.text "@ΟΔΌΣ", .text "String")]

def table : VariableTable where
  entries := [("@οδός", .known .string)]

def lookup : FieldLookup where
  entries := ⟨[("title", .typed .string)]⟩

def token (kind text : String) : Token where
  kind
  text
  span := ⟨none, none, none, none, some 1, some 20⟩

def name : Token :=
  token "IDENTIFIER" "Title"

def capital : Token :=
  token "VARIABLE" "@ΟΔΌΣ"

def small : Token :=
  token "VARIABLE" "@οδός"

def wrap (rule : String) (token : Token) : Node :=
  .branch ⟨rule, [.leaf token], .absent⟩

/-- `[Title] = @ΟΔΌΣ` -/
def comparison : Tree where
  rule := "condition"
  children := [wrap "field" name, wrap "operator" (token "EQUALS" "="), wrap "value" capital]
  extent := .absent

/-- `[Title] In (@ΟΔΌΣ, @οδός)` -/
def membership : Tree where
  rule := "condition"
  children :=
    [wrap "field" name, wrap "in_operator" (token "IN" "In"),
     .branch ⟨"value_list", [wrap "value" capital, wrap "value" small], .absent⟩]
  extent := .absent

def context : CompletionContext where
  expected := []
  previous := some small
  inCondition := true
  fieldType := some (.known .string)

theorem configured_loads : VariableTable.load configured = .ok table := by
  have first : lowercase "@Οδός" = "@οδός" := by decide +kernel
  have second : lowercase "@ΟΔΌΣ" = "@οδός" := by decide +kernel
  have integer : FieldType.read? (.text "integer") = some .integer := by decide +kernel
  have string : FieldType.read? (.text "String") = some .string := by decide +kernel
  simp [VariableTable.load, configured, VariableTable.addPair, RawValue.text?, first, second,
    integer, string, isVariableName, variableMarker, table, OrderedMap.set, OrderedMap.setEntry,
    OrderedMap.empty, bind, Except.bind, pure, Except.pure]

theorem offered_of_mem {spelling : Token} (member : spelling ∈ [capital, small]) :
    Offered table .string spelling := by
  simp only [List.mem_cons, List.not_mem_nil, or_false] at member
  rcases member with rfl | rfl <;>
    exact ⟨rfl, ⟨"@οδός", .variable, none⟩, List.mem_singleton_self _, by decide +kernel⟩

theorem wrap_holdsScalar (rule : String) (token : Token) :
    HoldsScalar ⟨rule, [.leaf token], .absent⟩ token :=
  ⟨by simp, [], [], rfl, trivial, by simp⟩

theorem comparison_compares : ComparesScalar comparison name .equals capital where
  checked := rfl
  named := ⟨_, Tree.child?_eq_some_iff.mp rfl, Tree.identifier?_eq_some_iff.mp rfl⟩
  writes := ⟨_, _, Tree.child?_eq_some_iff.mp rfl, Tree.operator?_eq_some_iff.mp rfl⟩
  holds := ⟨_, Tree.child?_eq_some_iff.mp rfl, wrap_holdsScalar "value" capital⟩

theorem membership_lists : ListsScalars membership name .isIn [capital, small] where
  checked := rfl
  named := ⟨_, Tree.child?_eq_some_iff.mp rfl, Tree.identifier?_eq_some_iff.mp rfl⟩
  incomplete := .inl (Tree.child?_eq_none_iff.mp rfl)
  writes := ⟨_, _, Tree.child?_eq_some_iff.mp rfl, Tree.operator?_eq_some_iff.mp rfl⟩
  lists := ⟨_, Tree.child?_eq_some_iff.mp rfl,
    .cons (wrap_holdsScalar "value" capital) (.cons (wrap_holdsScalar "value" small) .nil)⟩

end FinalSigma

open FinalSigma in
theorem capital_spelling_accepted :
    VariableTable.load configured = .ok table ∧
      check ⟨lookup, table⟩ (.branch comparison) = .ok [] ∧
      check ⟨lookup, table⟩ (.branch membership) = .ok [] ∧
      currentVariableSuggestions? context ⟨some 1, some 20⟩ table =
        some [⟨"@οδός", .variable, some "οδός"⟩] ∧
      String.singleton variableMarker ++ "οδός" = "@οδός" := by
  obtain ⟨accepted, inserted⟩ := offered_variables_accepted configured_loads
  obtain ⟨compared, listed⟩ := accepted .string lookup name (.typed .string) rfl rfl
  have suggested : currentVariableSuggestions? context ⟨some 1, some 20⟩ table =
      some [⟨"@οδός", .variable, some "οδός"⟩] := by
    decide +kernel
  obtain ⟨text, same, completes⟩ := inserted _ _ _ suggested _ (List.mem_singleton_self _)
  cases same
  refine ⟨configured_loads, ?_, ?_, suggested, completes⟩
  · exact compared comparison .equals capital comparison_compares (by decide)
      (offered_of_mem (by simp))
  · exact listed membership .isIn [capital, small] membership_lists (by decide)
      fun spelling => offered_of_mem

end WorkItemQuery
