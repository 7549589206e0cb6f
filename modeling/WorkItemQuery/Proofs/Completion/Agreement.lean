import Mathlib.Data.List.Nodup
import Mathlib.Data.List.Perm.Basic
import WorkItemQuery.Proofs.Completion.OfferedVariables
import WorkItemQuery.Proofs.Variables.Reloading

/-!
# The entry points of completion agree

Whether variables are listed, added to other suggestions or suggested in place of the one that is
being typed, they are the variables of one type filter, in the order of the table. The lists for the
types of a loaded table divide the list of all its variables among them. Main statement:
`completion_entry_points_agree`.
-/

namespace WorkItemQuery

namespace CompletionContext

variable {context : CompletionContext}

/-- The parser accepts a variable, and what is before the cursor does not close a group. -/
def ExpectsVariable (context : CompletionContext) : Prop :=
  "VARIABLE" ∈ context.expected ∧
    ∀ token ∈ context.previous, token.kind ≠ "GROUP" ∧ token.kind ≠ "RPAR"

theorem afterGroup_eq_false_iff : context.afterGroup = false ↔
    ∀ token ∈ context.previous, token.kind ≠ "GROUP" ∧ token.kind ≠ "RPAR" := by
  rw [afterGroup]
  cases context.previous with
  | none => simp
  | some token => simp

theorem acceptsVariable_iff : context.acceptsVariable = true ↔ context.ExpectsVariable := by
  rw [acceptsVariable, Bool.and_eq_true, Bool.not_eq_true', afterGroup_eq_false_iff,
    List.contains_iff_mem, ExpectsVariable]

/-- The field matters in a condition only. -/
theorem typeFilter_of_outside (outside : context.inCondition = false)
    (fieldType : Option DeclaredType) :
    { context with fieldType }.typeFilter = context.typeFilter := by
  rw [typeFilter, typeFilter, outside]
  rfl

end CompletionContext

section Suggestions

variable {context : CompletionContext} {position : Position} {table : VariableTable}
  {suggestions : List Suggestion}

theorem includeVariablesTimes_of_expected (expects : context.ExpectsVariable) (times : Nat)
    (suggestions : List Suggestion) :
    includeVariablesTimes context table times suggestions =
      suggestions ++ (List.replicate times (listVariables context.typeFilter table)).flatten := by
  induction times generalizing suggestions with
  | zero => simp [includeVariablesTimes]
  | succ times ih =>
      rw [includeVariablesTimes, ih, includeVariables,
        if_pos (CompletionContext.acceptsVariable_iff.mpr expects), List.replicate_succ,
        List.flatten_cons, List.append_assoc]

theorem includeVariablesTimes_of_unexpected (unexpected : ¬ context.ExpectsVariable) (times : Nat)
    (suggestions : List Suggestion) :
    includeVariablesTimes context table times suggestions = suggestions := by
  induction times with
  | zero => rfl
  | succ times ih =>
      rw [includeVariablesTimes, includeVariables,
        if_neg (mt CompletionContext.acceptsVariable_iff.mp unexpected), ih]

theorem labels_of_current
    (suggested : currentVariableSuggestions? context position table = some suggestions) :
    suggestions.map (·.label) = (listVariables context.typeFilter table).map (·.label) := by
  rw [currentVariableSuggestions?] at suggested
  split at suggested
  case isFalse _ => cases suggested
  case isTrue _ =>
    cases suggested
    rw [List.map_map]
    rfl

theorem includeVariablesTimes_of_outside (outside : context.inCondition = false)
    (fieldType : Option DeclaredType) (times : Nat) (suggestions : List Suggestion) :
    includeVariablesTimes { context with fieldType } table times suggestions =
      includeVariablesTimes context table times suggestions := by
  have once (suggestions : List Suggestion) :
      includeVariables { context with fieldType } table suggestions =
        includeVariables context table suggestions := by
    rw [includeVariables, CompletionContext.typeFilter_of_outside outside fieldType]
    rfl
  induction times generalizing suggestions with
  | zero => rfl
  | succ times ih => rw [includeVariablesTimes, includeVariablesTimes, once, ih]

theorem currentVariableSuggestions?_of_outside (outside : context.inCondition = false)
    (fieldType : Option DeclaredType) :
    currentVariableSuggestions? { context with fieldType } position table =
      currentVariableSuggestions? context position table := by
  rw [currentVariableSuggestions?, CompletionContext.typeFilter_of_outside outside fieldType]
  rfl

end Suggestions

section Sublists

variable {table : VariableTable} {type : DeclaredType}

theorem listVariables_none (table : VariableTable) :
    listVariables none table = table.entries.map fun entry => ⟨entry.1, .variable, none⟩ := by
  simp [listVariables]

theorem listVariables_some (type : DeclaredType) (table : VariableTable) :
    listVariables (some type) table =
      (table.entries.filter fun entry => entry.2.same type).map
        fun entry => ⟨entry.1, .variable, none⟩ := rfl

theorem listVariables_sublist (type : DeclaredType) (table : VariableTable) :
    (listVariables (some type) table).Sublist (listVariables none table) := by
  rw [listVariables_none, listVariables_some]
  exact List.filter_sublist.map _

theorem listVariables_eq_filter (distinct : table.keys.Nodup) (type : DeclaredType) :
    listVariables (some type) table =
      (listVariables none table).filter fun suggestion =>
        (table.get? suggestion.label).any (·.same type) := by
  rw [listVariables_none, listVariables_some, List.filter_map]
  refine congrArg _ (List.filter_congr fun entry member => ?_)
  rw [Function.comp_apply, OrderedMap.get?_of_mem distinct member, Option.any_some]

theorem nodup_listVariables (distinct : table.keys.Nodup) (filter : Option DeclaredType) :
    (listVariables filter table).Nodup := by
  have whole : (listVariables none table).Nodup := by
    refine List.Nodup.of_map (·.label) ?_
    rw [listVariables_none, List.map_map]
    exact distinct
  cases filter with
  | none => exact whole
  | some type => exact whole.sublist (listVariables_sublist type table)

end Sublists

/-- The types that some variable of the table has. -/
def VariableTable.Occurs (table : VariableTable) (type : FieldType) : Prop :=
  ∃ name, (name, .known type) ∈ table.entries

section Partition

variable {configured : RawMapping} {table : VariableTable} {type other : FieldType}
  {types : List FieldType}

theorem VariableTable.exists_known_of_mem (loaded : load configured = .ok table) {name : String}
    {type : DeclaredType} (member : (name, type) ∈ table.entries) :
    ∃ known, type = .known known := by
  obtain ⟨given, gave, rfl⟩ := load_eq_ok_iff.mp loaded
  obtain ⟨pair, -, gives⟩ := exists_mem_of_forall₂ gave (OrderedMap.mem_entries_ofPairs member)
  cases gives with
  | intro _ _ _ => exact ⟨_, rfl⟩

theorem disjoint_listVariables (distinct : table.keys.Nodup) (different : type ≠ other) :
    (listVariables (some (.known type)) table).Disjoint
      (listVariables (some (.known other)) table) := by
  intro suggestion first second
  obtain ⟨name, held, rfl⟩ := mem_listVariables_iff.mp first
  obtain ⟨same, also, named⟩ := mem_listVariables_iff.mp second
  cases named
  have typed := OrderedMap.get?_of_mem distinct held
  cases typed.symm.trans (OrderedMap.get?_of_mem distinct also)
  exact different rfl

theorem listVariables_ne_nil (occurs : table.Occurs type) :
    listVariables (some (.known type)) table ≠ [] := by
  obtain ⟨name, member⟩ := occurs
  exact List.ne_nil_of_mem (mem_listVariables_iff.mpr ⟨name, member, rfl⟩)

theorem flatMap_listVariables_perm (loaded : VariableTable.load configured = .ok table)
    (distinct : types.Nodup) (occurring : ∀ type, type ∈ types ↔ table.Occurs type) :
    (types.flatMap fun type => listVariables (some (.known type)) table).Perm
      (listVariables none table) := by
  have once : table.keys.Nodup := (VariableTable.load_normal loaded).distinct
  have blocks : (types.flatMap fun type => listVariables (some (.known type)) table).Nodup :=
    List.nodup_flatMap.mpr ⟨fun type _ => nodup_listVariables once _,
      distinct.imp fun different => disjoint_listVariables once different⟩
  have whole := nodup_listVariables once none
  refine (List.perm_ext_iff_of_nodup blocks whole).mpr fun suggestion => ?_
  rw [List.mem_flatMap]
  constructor
  · rintro ⟨type, -, listed⟩
    exact (listVariables_sublist _ table).subset listed
  · intro listed
    rw [listVariables_none] at listed
    obtain ⟨⟨name, type⟩, member, rfl⟩ := List.mem_map.mp listed
    obtain ⟨known, rfl⟩ := VariableTable.exists_known_of_mem loaded member
    exact ⟨known, (occurring known).mpr ⟨name, member⟩,
      mem_listVariables_iff.mpr ⟨name, member, rfl⟩⟩

end Partition

/-- However often variables are included where one is expected, the suggestions stay in front and
the variables of the context's type filter follow once each time; elsewhere nothing changes. What is
suggested for a variable that is being typed has the labels of the same list. Outside a condition
the field's type makes no difference. The variables of a type are those of all the variables that
have the type, in order, and the types that occur in a loaded table divide all its variables. -/
theorem completion_entry_points_agree (context : CompletionContext) (position : Position)
    (table : VariableTable) :
    (∀ (times : Nat) (suggestions : List Suggestion),
      (context.ExpectsVariable → includeVariablesTimes context table times suggestions =
        suggestions ++ (List.replicate times (listVariables context.typeFilter table)).flatten) ∧
      (¬ context.ExpectsVariable →
        includeVariablesTimes context table times suggestions = suggestions)) ∧
    (∀ suggestions, currentVariableSuggestions? context position table = some suggestions →
      suggestions.map (·.label) = (listVariables context.typeFilter table).map (·.label)) ∧
    (context.inCondition = false → ∀ fieldType : Option DeclaredType,
      (∀ (times : Nat) (suggestions : List Suggestion),
        includeVariablesTimes { context with fieldType } table times suggestions =
          includeVariablesTimes context table times suggestions) ∧
      currentVariableSuggestions? { context with fieldType } position table =
        currentVariableSuggestions? context position table) ∧
    (∀ type : DeclaredType,
      (listVariables (some type) table).Sublist (listVariables none table) ∧
      (table.keys.Nodup → listVariables (some type) table =
        (listVariables none table).filter fun suggestion =>
          (table.get? suggestion.label).any (·.same type))) ∧
    ∀ configured, VariableTable.load configured = .ok table →
      (∀ suggestions, currentVariableSuggestions? context position table = some suggestions →
        ∀ suggestion ∈ suggestions, ∃ text, suggestion.insertText = some text ∧
          String.singleton variableMarker ++ text = suggestion.label) ∧
      (listVariables none table).Nodup ∧
      ∀ types : List FieldType, types.Nodup → (∀ type, type ∈ types ↔ table.Occurs type) →
        (types.flatMap fun type => listVariables (some (.known type)) table).Perm
          (listVariables none table) ∧
        ∀ type ∈ types, listVariables (some (.known type)) table ≠ [] := by
  refine ⟨fun times suggestions => ⟨?_, ?_⟩, ?_, fun outside fieldType => ⟨?_, ?_⟩, ?_, ?_⟩
  · intro expects
    exact includeVariablesTimes_of_expected expects times suggestions
  · intro unexpected
    exact includeVariablesTimes_of_unexpected unexpected times suggestions
  · intro suggestions suggested
    exact labels_of_current suggested
  · exact includeVariablesTimes_of_outside outside fieldType
  · exact currentVariableSuggestions?_of_outside outside fieldType
  · intro type
    exact ⟨listVariables_sublist type table, fun distinct => listVariables_eq_filter distinct type⟩
  · intro configured loaded
    have normal : table.Normal := VariableTable.load_normal loaded
    refine ⟨?_, nodup_listVariables normal.distinct none, fun types distinct occurring => ⟨?_, ?_⟩⟩
    · intro suggestions suggested suggestion member
      exact inserted_completes_label normal suggested member
    · exact flatMap_listVariables_perm loaded distinct occurring
    · intro type member
      exact listVariables_ne_nil ((occurring type).mp member)

namespace TypedVariable

def typed : Token where
  kind := "VARIABLE"
  text := "@me"
  span := ⟨some 16, some 19, some 1, some 17, some 1, some 20⟩

def cursor : Position where
  line := some 1
  column := some 20

/-- A variable has been typed where a date is expected. -/
def context : CompletionContext where
  expected := ["VARIABLE"]
  previous := some typed
  inCondition := true
  fieldType := some (.known .dateTime)

/-- The same in a list of columns. -/
def elsewhere : CompletionContext :=
  { context with inCondition := false }

def equals : Suggestion :=
  operatorSuggestion "="

def myself : Suggestion where
  label := "@me"
  kind := .variable
  insertText := none

def way : Suggestion where
  label := "@οδός"
  kind := .variable
  insertText := none

theorem context_expectsVariable : context.ExpectsVariable :=
  CompletionContext.acceptsVariable_iff.mp rfl

theorem occurring (type : FieldType) :
    type ∈ [.string, .dateTime] ↔ VariableTable.Spellings.table.Occurs type := by
  simp [VariableTable.Occurs, VariableTable.Spellings.table, exists_or, or_comm]

end TypedVariable

open TypedVariable VariableTable.Spellings in
theorem dates_for_typed_variable :
    VariableTable.load configured = .ok table ∧
      includeVariablesTimes context table 2 [equals] = [equals, way, way] ∧
      currentVariableSuggestions? context cursor table =
        some [{ way with insertText := some "οδός" }] ∧
      String.singleton variableMarker ++ "οδός" = "@οδός" ∧
      includeVariablesTimes { elsewhere with fieldType := none } table 1 [] =
        includeVariablesTimes elsewhere table 1 [] ∧
      listVariables none table = [way, myself] ∧
      [myself, way].Perm (listVariables none table) := by
  obtain ⟨included, -, -, -, loading⟩ := completion_entry_points_agree context cursor table
  obtain ⟨-, -, independent, -, -⟩ := completion_entry_points_agree elsewhere cursor table
  obtain ⟨completes, -, divided⟩ := loading configured configured_loads
  have suggested : currentVariableSuggestions? context cursor table =
      some [{ way with insertText := some "οδός" }] := by
    decide +kernel
  refine ⟨configured_loads, (included 2 [equals]).1 context_expectsVariable, suggested, ?_,
    (independent rfl none).1 1 [], rfl, (divided _ (by decide) occurring).1⟩
  obtain ⟨text, same, joined⟩ := completes _ suggested _ (List.mem_singleton_self _)
  cases same
  exact joined

end WorkItemQuery
