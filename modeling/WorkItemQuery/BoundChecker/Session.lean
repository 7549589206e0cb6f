import WorkItemQuery.BoundChecker

/-!
# Bound checker sessions

The steps of a session with a bound checker: its source changes, fails or is invalidated, and the
checker hands out lookups and checks queries.
-/

namespace WorkItemQuery

inductive BoundStep where
  | snapshot (fields : Option (List FieldSource))
  | extend (fields : List FieldSource)
  | refuse (refusal? : Option Refusal)
  | invalidate
  | lookup
  | check (query : Node)

inductive BoundResult where
  | nothing
  | lookup (number : Nat) (keys : List String)
  | diagnostics (diagnostics : List Diagnostic)
  | error (error : BoundError)

structure BoundTurn where
  checker : BoundChecker
  records : List LogRecord
  result : BoundResult

def BoundResult.ofCheck : Except AnalysisError (List Diagnostic) → BoundResult
  | .ok found => .diagnostics found
  | .error fault => .error (.analysis fault)

namespace BoundChecker

/-- A step that only changes the source. -/
def quietly (checker : BoundChecker) : BoundTurn :=
  ⟨checker, [], .nothing⟩

def rejecting (checker : BoundChecker) (error : BoundError) : BoundTurn :=
  ⟨checker, [], .error error⟩

/-- The number of a lookup among those handed out, in the order of their first use. -/
def handedOutNumber (checker : BoundChecker) (serial : Nat) : Nat :=
  checker.handedOut.idxOf serial

def handOut (checker : BoundChecker) (serial : Nat) : BoundChecker :=
  if serial ∈ checker.handedOut then checker
  else { checker with handedOut := checker.handedOut ++ [serial] }

def lookupStep (checker : BoundChecker) : BoundTurn :=
  let found := checker.fieldLookup
  match found.result with
  | .error error => ⟨found.checker, found.records, .error error⟩
  | .ok built =>
      let after := found.checker.handOut built.serial
      ⟨after, found.records, .lookup (after.handedOutNumber built.serial) built.lookup.keys⟩

def checkStep (checker : BoundChecker) (query : Node) : BoundTurn :=
  let found := checker.fieldLookup
  match found.result with
  | .error error => ⟨found.checker, found.records, .error error⟩
  | .ok built =>
      let visited := visit ⟨built.lookup, checker.variableTable⟩ query
      ⟨found.checker, found.records ++ visited.records, .ofCheck visited.result⟩

/-- Replaces the current snapshot by a new one, which may be missing. -/
def replaceSnapshot (checker : BoundChecker) (fields : Option (List FieldDescriptor)) :
    BoundChecker :=
  { checker with snapshots := checker.snapshots ++ [fields] }

def extendSnapshot (checker : BoundChecker) (fields : List FieldDescriptor) : BoundChecker :=
  { checker with
    snapshots := checker.snapshots.modify checker.currentSnapshot (·.map (· ++ fields)) }

def snapshotStep (checker : BoundChecker) : Option (List FieldSource) → BoundTurn
  | none => (checker.replaceSnapshot none).quietly
  | some sources =>
      match FieldSource.readAll sources with
      | .error error => checker.rejecting (.source error)
      | .ok fields => (checker.replaceSnapshot (some fields)).quietly

/-- The fields are added one by one, so those before one that cannot be read stay. -/
def extendStep (checker : BoundChecker) (sources : List FieldSource) : BoundTurn :=
  match checker.fieldsOf? checker.currentSnapshot, FieldSource.readUntilError sources with
  | none, _ => checker.rejecting .nothingToExtend
  | some _, (fields, none) => (checker.extendSnapshot fields).quietly
  | some _, (fields, some error) => (checker.extendSnapshot fields).rejecting (.source error)

def step (checker : BoundChecker) : BoundStep → BoundTurn
  | .snapshot sources => checker.snapshotStep sources
  | .extend sources => checker.extendStep sources
  | .refuse refusal? => { checker with refusal? }.quietly
  | .invalidate =>
      { checker with cache := checker.cache.invalidate, unheard? := none }.quietly
  | .lookup => checker.lookupStep
  | .check query => checker.checkStep query

/-- The result of each step with the number of fetches after it, and the records of the whole
session. -/
def session (checker : BoundChecker) : List BoundStep → Logged (List (BoundResult × Nat))
  | [] => ⟨[], []⟩
  | first :: rest =>
      let turn := checker.step first
      let later := session turn.checker rest
      ⟨turn.records ++ later.records, (turn.result, turn.checker.fetches) :: later.result⟩

end BoundChecker

end WorkItemQuery
