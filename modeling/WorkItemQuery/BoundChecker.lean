import WorkItemQuery.Cache.Session
import WorkItemQuery.Check

/-!
# Bound checker

A checker bound to a source of field metadata. Each time it asks the source for the current
snapshot, and it builds a new lookup exactly when the snapshot is not the one that its lookup was
built from. A snapshot is known by its number, not by its contents: fields that are added to it in
place go unnoticed.
-/

namespace WorkItemQuery

inductive BoundError where
  | source (error : FieldSourceError)
  | analysis (error : AnalysisError)
  /-- What the source itself raised. -/
  | refused (refusal : Refusal)
  /-- What a cached fetch ended with. -/
  | fetchFailed (failure : Failure)
  | fetchCancelled (text : String)
  /-- The source gave nothing where a snapshot was expected. -/
  | noSnapshot
  /-- Fields were added where there is no snapshot. -/
  | nothingToExtend

/-- A lookup with the snapshot it was built from. No two builds have one serial number. -/
structure BuiltLookup where
  snapshot : Nat
  serial : Nat
  lookup : FieldLookup

/-- How the checker asks its source: each time anew, or through a cache. -/
inductive SourceAccess where
  | direct
  | cached
  deriving DecidableEq

structure BoundChecker where
  variableTable : VariableTable
  access : SourceAccess
  /-- Every snapshot so far by its number; the last one is current, and one may be missing. -/
  snapshots : List (Option (List FieldDescriptor))
  /-- Why the source gives no snapshot at present. -/
  refusal? : Option Refusal
  fetches : Nat
  cache : Cache Nat
  /-- The text of a cancelled fetch, until somebody hears it: whoever waited for the fetch hears no
  text, and the next to ask hears it. -/
  unheard? : Option String
  built? : Option BuiltLookup
  builds : Nat
  /-- The serial numbers of the lookups that were handed out, in the order of their first use. -/
  handedOut : List Nat

namespace BoundChecker

def fresh (variableTable : VariableTable) (access : SourceAccess) : BoundChecker where
  variableTable
  access
  snapshots := [some []]
  refusal? := none
  fetches := 0
  cache := .fresh
  unheard? := none
  built? := none
  builds := 0
  handedOut := []

def currentSnapshot (checker : BoundChecker) : Nat :=
  checker.snapshots.length - 1

def fetchOutcome (checker : BoundChecker) : Outcome Nat :=
  match checker.refusal? with
  | some refusal => refusal.outcome
  | none => .value checker.currentSnapshot

/-- What asking a checker gives: the checker as it is afterwards, the records and the result. -/
structure Turn (α : Type) where
  checker : BoundChecker
  records : List LogRecord
  result : Except BoundError α

def ofRefusal? : Option Refusal → Nat → Except BoundError Nat
  | some refusal, _ => .error (.refused refusal)
  | none, snapshot => .ok snapshot

/-- What an outcome comes to, with the text that is heard if it is a cancellation. -/
def ofOutcome (heard : String) : Outcome Nat → Except BoundError Nat
  | .value snapshot => .ok snapshot
  | .failed failure => .error (.fetchFailed failure)
  | .cancelled => .error (.fetchCancelled heard)

def obtainDirect (checker : BoundChecker) : Turn Nat where
  checker := { checker with fetches := checker.fetches + 1 }
  records := []
  result := ofRefusal? checker.refusal? checker.currentSnapshot

def askedCache (checker : BoundChecker) : Cache Nat :=
  checker.cache.get (fun _ => some checker.fetchOutcome) 1

def newFetches (checker : BoundChecker) : Nat :=
  checker.askedCache.fetches.length - checker.cache.fetches.length

def obtainCached (checker : BoundChecker) : Turn Nat where
  checker :=
    { checker with
      cache := checker.askedCache
      unheard? := if checker.newFetches = 0 then none else checker.refusal?.bind (·.cancellation?)
      fetches := checker.fetches + checker.newFetches }
  records := checker.cache.recordsSince checker.askedCache
  result :=
    ofOutcome (if checker.newFetches = 0 then checker.unheard?.getD "" else "")
      ((checker.askedCache.answer? checker.cache.callers.length).getD .cancelled)

def obtain (checker : BoundChecker) : Turn Nat :=
  match checker.access with
  | .direct => checker.obtainDirect
  | .cached => checker.obtainCached

def fieldsOf? (checker : BoundChecker) (snapshot : Nat) : Option (List FieldDescriptor) :=
  checker.snapshots[snapshot]?.join

/-- Builds the lookup of a snapshot; a failure leaves the checker as it was. -/
def rebuild (checker : BoundChecker) (snapshot : Nat) : Turn BuiltLookup :=
  match checker.fieldsOf? snapshot with
  | none => ⟨checker, [], .error .noSnapshot⟩
  | some fields =>
      let attempt := FieldLookup.buildLogged fields
      let records := .rebuildingLookup fields.length :: attempt.records
      match attempt.result with
      | .error error => ⟨checker, records, .error (.analysis error)⟩
      | .ok lookup =>
          let built := { snapshot, serial := checker.builds, lookup }
          ⟨{ checker with built? := some built, builds := checker.builds + 1 }, records, .ok built⟩

/-- The lookup of a snapshot: the one at hand if it was built from this very snapshot. -/
def lookupFor (checker : BoundChecker) (snapshot : Nat) : Turn BuiltLookup :=
  match checker.built?.filter (·.snapshot == snapshot) with
  | some built => ⟨checker, [], .ok built⟩
  | none => checker.rebuild snapshot

def fieldLookup (checker : BoundChecker) : Turn BuiltLookup :=
  let obtained := checker.obtain
  match obtained.result with
  | .error error => { obtained with result := .error error }
  | .ok snapshot =>
      let found := obtained.checker.lookupFor snapshot
      { found with records := obtained.records ++ found.records }

end BoundChecker

end WorkItemQuery
