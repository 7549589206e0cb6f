import WorkItemQuery.RawValue.Written
import WorkItemQuery.Report

/-!
# Failures

How fetching a value goes wrong. A failure is passed on to whoever waits for the value; a
cancellation is not a failure and is passed on as such.
-/

namespace WorkItemQuery

inductive FailureKind where
  | runtime
  | value
  | connection
  | key
  | timeout
  | fieldFetch
  | query
  deriving DecidableEq

def FailureKind.name : FailureKind → String
  | .runtime => "RuntimeError"
  | .value => "ValueError"
  | .connection => "ConnectionError"
  | .key => "KeyError"
  | .timeout => "TimeoutError"
  | .fieldFetch => "FieldFetchError"
  | .query => "WiqlError"

inductive Failure where
  | raised (kind : FailureKind) (text : String)
  /-- The fetch gave a value where something to wait for was expected. -/
  | notAwaitable (value : RawValue)

namespace Failure

def name : Failure → String
  | .raised kind _ => kind.name
  | .notAwaitable _ => "TypeError"

/-- The text of a failure. One about a key quotes the key. -/
def message : Failure → String
  | .raised .key text => Text.quoted text
  | .raised _ text => text
  | .notAwaitable value => "object " ++ value.kindName ++ " can't be used in 'await' expression"

def report (failure : Failure) : Report :=
  .make .fieldFetch "field metadata fetch failed"
    ("factory raised " ++ failure.name ++ ": " ++ failure.message)

/-- The report that a failure is by itself. -/
def ownReport? : Failure → Option Report
  | .raised .fieldFetch text => some (.make .fieldFetch text "")
  | .raised .query text => some (.make .general text "")
  | _ => none

end Failure

inductive Refusal where
  | failed (failure : Failure)
  | cancelled (text : String)

def Refusal.cancellation? : Refusal → Option String
  | .failed _ => none
  | .cancelled text => some text

end WorkItemQuery
