import WorkItemQuery.Cache

/-!
# Cache sessions

What the steps of a session show: the answers that each step gives, in the order of the callers'
numbers, and a log record for each fetch that it starts.
-/

namespace WorkItemQuery

namespace Cache

variable {α : Type}

/-- The callers answered since an earlier state, in the order of their numbers. -/
def answeredSince (before after : Cache α) : List (Nat × Outcome α) :=
  (List.range after.callers.length).filterMap fun caller =>
    if (before.answer? caller).isSome then none
    else (after.answer? caller).map (caller, ·)

/-- A record for each fetch that was started since an earlier state. -/
def recordsSince (before after : Cache α) : List LogRecord :=
  (after.fetches.drop before.fetches.length).map fun fetch => .fetching fetch.generation

end Cache

/-- What a step of a session shows. -/
structure CacheReport (α : Type) where
  hasValue : Bool
  fetches : Nat
  answered : List (Nat × Outcome α)

namespace Cache

variable {α : Type}

def reportSince (before after : Cache α) : CacheReport α where
  hasValue := after.hasValue
  fetches := after.fetches.length
  answered := answeredSince before after

/-- The report of each step of a session, with the records of the whole session. -/
def session (script : Script α) (cache : Cache α) :
    List (CacheStep α) → Logged (List (CacheReport α))
  | [] => ⟨[], []⟩
  | first :: rest =>
      let after := cache.step script first
      let later := session script after rest
      ⟨recordsSince cache after ++ later.records, reportSince cache after :: later.result⟩

end Cache

end WorkItemQuery
