import WorkItemQuery.Proofs.Check.Walk
import WorkItemQuery.Proofs.Tree.Written

/-!
# Queries visited one after the other

A visit adds to what was gathered before it: the diagnostics of its query, or, if a condition raises
an error, those of the conditions before that one and nothing else. What the visits before it met
with makes no difference. Main statement: `visits_add_up`.
-/

namespace WorkItemQuery

/-- What a visit to a query adds to the diagnostics, and the error that it ends with. -/
inductive Adds (scope : Scope) : Node → List Diagnostic → Option AnalysisError → Prop where
  | complete {query : Node} {diagnostics : List Diagnostic}
      (passed : check scope query = .ok diagnostics) : Adds scope query diagnostics none
  | stopped {query : Node} {before after : List Tree} {condition : Tree}
      {parts : List (List Diagnostic)} {error : AnalysisError}
      (failed : check scope query = .error error)
      (conditions : query.conditions = before ++ condition :: after)
      (kept : List.Forall₂ (fun earlier part => check scope (.branch earlier) = .ok part)
        before parts)
      (raised : check scope (.branch condition) = .error error) :
      Adds scope query parts.flatten (some error)
  | missing : Adds scope .absent [] (some .wrongNode)

section Visits

variable {scope : Scope}

theorem Visit.result_eq_ok_of_none {visit : Visit} (passed : visit.error? = none) :
    visit.result = .ok visit.diagnostics := by
  rw [result, passed]

theorem Visit.result_eq_error_of_some {visit : Visit} {error : AnalysisError}
    (raised : visit.error? = some error) : visit.result = .error error := by
  rw [result, raised]

/-- Conditions are visited up to the first that raises an error. -/
theorem visitConditions_stopped {conditions : List Tree} {error : AnalysisError}
    (stopped : (visitConditions scope conditions).error? = some error) :
    ∃ before condition after parts, conditions = before ++ condition :: after ∧
      List.Forall₂ (fun earlier part => checkCondition scope earlier = .ok part) before parts ∧
      checkCondition scope condition = .error error ∧
      (visitConditions scope conditions).diagnostics = parts.flatten := by
  induction conditions with
  | nil => cases stopped
  | cons condition rest ih =>
      rw [visitConditions, visitCondition] at stopped ⊢
      cases checked : checkCondition scope condition with
      | error raised =>
          rw [checked] at stopped
          cases stopped
          exact ⟨[], condition, rest, [], rfl, .nil, checked, rfl⟩
      | ok part =>
          rw [checked] at stopped
          obtain ⟨before, raising, after, parts, rfl, kept, raised, gathered⟩ := ih stopped
          refine ⟨condition :: before, raising, after, part :: parts, rfl, .cons checked kept,
            raised, ?_⟩
          change (part ++ []) ++ (visitConditions scope _).diagnostics = part ++ parts.flatten
          rw [List.append_nil, gathered]

theorem visit_adds (scope : Scope) (query : Node) :
    Adds scope query (visit scope query).diagnostics (visit scope query).error? := by
  cases stopped : (visit scope query).error? with
  | none => exact .complete (Visit.result_eq_ok_of_none stopped)
  | some error =>
      have failed : check scope query = .error error := Visit.result_eq_error_of_some stopped
      cases query with
      | absent =>
          cases stopped
          exact .missing
      | leaf token => cases stopped
      | branch tree =>
          rw [visit_branch] at stopped ⊢
          obtain ⟨before, raising, after, parts, conditions, kept, raised, gathered⟩ :=
            visitConditions_stopped stopped
          have alone : ∀ condition ∈ before ++ raising :: after,
              check scope (.branch condition) = checkCondition scope condition := by
            intro condition member
            rw [← conditions] at member
            exact check_of_mem_conditions member
          have earlier := (List.forall₂_and_left _ _).mpr
            ⟨fun condition member => alone condition (List.mem_append_left _ member), kept⟩
          have here := alone raising (List.mem_append_right _ List.mem_cons_self)
          rw [gathered]
          exact .stopped failed conditions
            (earlier.imp fun _ _ both => both.1.trans both.2) (here.trans raised)

/-- The diagnostics that queries have added, one after the other. -/
def added (scope : Scope) (queries : List Node) : List Diagnostic :=
  queries.flatMap fun query => (visit scope query).diagnostics

/-- The diagnostics that are held after visits to all queries. -/
def held (scope : Scope) (queries : List Node) : List Diagnostic :=
  ((visitAll scope [] queries).getLast?.map Visit.diagnostics).getD []

section Sequences

variable (scope) (gathered : List Diagnostic) (queries : List Node)

theorem visitAll_length : (visitAll scope gathered queries).length = queries.length := by
  induction queries generalizing gathered with
  | nil => rfl
  | cons query rest ih => rw [visitAll, List.length_cons, ih, List.length_cons]

theorem visitAll_errors :
    (visitAll scope gathered queries).map Visit.error? =
      queries.map fun query => (visit scope query).error? := by
  induction queries generalizing gathered with
  | nil => rfl
  | cons query rest ih => rw [visitAll, List.map_cons, ih, List.map_cons]

theorem visitAll_append (later : List Node) :
    visitAll scope gathered (queries ++ later) =
      visitAll scope gathered queries ++ visitAll scope (gathered ++ added scope queries) later := by
  induction queries generalizing gathered with
  | nil =>
      rw [added, List.flatMap_nil, List.append_nil]
      rfl
  | cons query rest ih =>
      rw [List.cons_append, visitAll, visitAll, ih, added, added, List.flatMap_cons,
        List.append_assoc, List.cons_append]

theorem visitAll_gathered (before : List Diagnostic) :
    visitAll scope (before ++ gathered) queries =
      (visitAll scope gathered queries).map (·.after before []) := by
  induction queries generalizing gathered with
  | nil => rfl
  | cons query rest ih =>
      rw [visitAll, visitAll, List.map_cons, List.append_assoc, ih]
      rfl

theorem last_visitAll :
    ((visitAll scope gathered queries).getLast?.map Visit.diagnostics).getD gathered =
      gathered ++ added scope queries := by
  induction queries generalizing gathered with
  | nil =>
      rw [added, List.flatMap_nil, List.append_nil]
      rfl
  | cons query rest ih =>
      have later := ih (gathered ++ (visit scope query).diagnostics)
      rw [visitAll, List.getLast?_cons, added, List.flatMap_cons, ← List.append_assoc, ← added,
        ← later]
      cases (visitAll scope (gathered ++ (visit scope query).diagnostics) rest).getLast? <;> rfl

theorem held_eq_added : held scope queries = added scope queries :=
  last_visitAll scope [] queries

end Sequences

theorem walk_of_passed {query : Node} (passed : (visit scope query).error? = none) :
    query.walk scope = visit scope query := by
  cases query with
  | absent => cases passed
  | leaf token => rfl
  | branch tree => rfl

theorem walkChildren_of_passed {queries : List Node}
    (passed : ∀ query ∈ queries, (visit scope query).error? = none) :
    (walkChildren scope queries).result = .ok (added scope queries) := by
  induction queries with
  | nil => rfl
  | cons query rest ih =>
      -- no query is absent, as its visit would have raised an error: it is walked as it is visited
      obtain ⟨first, later⟩ := List.forall_mem_cons.mp passed
      rw [walkChildren, Visit.result_andThen, walk_of_passed first,
        Visit.result_eq_ok_of_none first, ih later]
      rfl

theorem check_of_passed {queries : List Node} {rule : String}
    (passed : ∀ visit ∈ visitAll scope [] queries, visit.error? = none)
    (outer : isConditionRule rule = false) (extent : Extent) :
    check scope (.branch ⟨rule, queries, extent⟩) = .ok (added scope queries) := by
  have each : ∀ query ∈ queries, (visit scope query).error? = none := by
    have errors := visitAll_errors scope [] queries
    intro query member
    have shown : (visit scope query).error? ∈ (visitAll scope [] queries).map Visit.error? :=
      errors ▸ List.mem_map_of_mem member
    obtain ⟨visited, among, same⟩ := List.mem_map.mp shown
    exact same.symm.trans (passed visited among)
  rw [check, visit, Tree.walk, outer]
  exact walkChildren_of_passed each

end Visits

theorem visits_add_up (scope : Scope) :
    (∀ earlier query later, ∃ visited,
      (visitAll scope [] (earlier ++ query :: later))[earlier.length]? = some visited ∧
      ∃ diagnostics, visited.diagnostics = held scope earlier ++ diagnostics ∧
        Adds scope query diagnostics visited.error?) ∧
    (∀ earlier later, visitAll scope [] (earlier ++ later) =
      visitAll scope [] earlier ++
        (visitAll scope [] later).map (·.after (held scope earlier) [])) ∧
    ∀ queries rule extent, isConditionRule rule = false →
      (∀ visit ∈ visitAll scope [] queries, visit.error? = none) →
      check scope (.branch ⟨rule, queries, extent⟩) = .ok (held scope queries) := by
  refine ⟨?_, ?_, ?_⟩
  · intro earlier query later
    have split := visitAll_append scope [] earlier (query :: later)
    refine ⟨{ visit scope query with
      diagnostics := held scope earlier ++ (visit scope query).diagnostics }, ?_, _, rfl,
      visit_adds scope query⟩
    rw [split, List.getElem?_append_right (Nat.le_of_eq (visitAll_length scope [] earlier)),
      visitAll_length, Nat.sub_self, held_eq_added]
    rfl
  · intro earlier later
    rw [visitAll_append, held_eq_added, ← visitAll_gathered, List.append_nil]
    rfl
  · intro queries rule extent outer passed
    rw [held_eq_added]
    exact check_of_passed passed outer extent

namespace Interrupted

def scope : Scope where
  lookup := ⟨⟨[("title", .typed .string)]⟩⟩
  variableTable := VariableTable.predefined

def five (start : Int) : Token :=
  .startingAt start "NUMBER" "5"

def under (start : Int) : Token :=
  .startingAt start "UNDER" "Under"

/-- `[Title] = 5` -/
def comparison : Tree :=
  .ofComparison (.startingAt 0 "IDENTIFIER" "Title") (.startingAt 8 "EQUALS" "=")
    (.scalar (five 10))

/-- `[Title] Under (5`, and what follows in the list -/
def listing (values : List Node) : Tree where
  rule := "condition"
  children :=
    [.branch (.around "field" (.startingAt 20 "IDENTIFIER" "Title")),
     .branch (.around "in_operator" (under 28)),
     .branch ⟨"value_list", .branch (.around "value" (five 35)) :: values, .absent⟩]
  extent := .absent

/-- `[Title] Under 'A'` -/
def ancestry : Tree :=
  .ofComparison (.startingAt 50 "IDENTIFIER" "Title") (under 58)
    (.scalar (.startingAt 64 "STRING" "'A'"))

/-- A list that has lost a value, between two other conditions. -/
def interrupted : Node :=
  .branch ⟨"where_clause", [.branch comparison,
    .branch (listing [.branch ⟨"value", [.absent], .absent⟩]), .branch ancestry], .absent⟩

end Interrupted

open Interrupted in
theorem interrupted_visit_keeps_first_condition :
    let wrongKind (start : Int) := Diagnostic.atToken (five start) (Message.expectedValue .string)
    let wrongOperator (start : Int) (side : RightSide) := Diagnostic.atToken (under start)
      (Message.validComparisons (FieldType.string.rules.operators side))
    check scope (.branch (listing [])) = .ok [wrongOperator 28 .group, wrongKind 35] ∧
      Adds scope interrupted [wrongKind 10] (some .wrongNode) ∧
      held scope [interrupted, .branch ancestry] = [wrongKind 10, wrongOperator 58 .literal] ∧
      check scope (.branch ⟨"where_clause", [.branch ancestry, .leaf (five 70)], .absent⟩) =
        .ok (held scope [.branch ancestry, .leaf (five 70)]) := by
  intro wrongKind wrongOperator
  obtain ⟨positions, _, together⟩ := visits_add_up scope
  refine ⟨rfl, ?_, rfl, ?_⟩
  · obtain ⟨visited, among, diagnostics, gathered, adds⟩ :=
      positions [] interrupted [.branch ancestry]
    cases among
    cases gathered
    exact adds
  · refine together _ "where_clause" .absent rfl fun visited member => ?_
    rcases List.mem_pair.mp member with rfl | rfl <;> rfl

end WorkItemQuery
