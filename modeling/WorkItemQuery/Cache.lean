import WorkItemQuery.Failure
import WorkItemQuery.LogRecord

/-!
# Single-flight cache

A cache for one value that is fetched when a caller asks for it. Callers that come while a fetch is
under way join it. Invalidating starts a new generation: a fetch of an older one still answers the
callers that joined it, and changes nothing else. A failed fetch is forgotten, so that the next
caller starts another; a cancelled fetch stays pending.

The cache is a ledger of the fetches and the callers so far; each is known by its number, its place
in the ledger.
-/

namespace WorkItemQuery

/-- How a fetch ends, and what a caller is answered. -/
inductive Outcome (α : Type) where
  | value (value : α)
  | failed (failure : Failure)
  | cancelled

def Refusal.outcome {α : Type} : Refusal → Outcome α
  | .failed failure => .failed failure
  | .cancelled _ => .cancelled

structure Fetch (α : Type) where
  generation : Nat
  outcome? : Option (Outcome α)

/-- A caller, with the fetch it joined unless it found a value. -/
structure Caller (α : Type) where
  joined? : Option Nat
  outcome? : Option (Outcome α)

structure Cache (α : Type) where
  value? : Option α
  pending? : Option Nat
  generation : Nat
  fetches : List (Fetch α)
  callers : List (Caller α)

/-- What each fetch does at once, by its number; `none` for one that has to be resolved. -/
abbrev Script (α : Type) := Nat → Option (Outcome α)

inductive CacheStep (α : Type) where
  | get (count : Nat)
  | invalidate
  | cancel (caller : Nat)
  | resolve (fetch : Nat) (outcome : Outcome α)

namespace Caller

variable {α : Type}

def answer (caller : Caller α) (outcome : Outcome α) : Caller α where
  joined? := caller.joined?
  outcome? := some (caller.outcome?.getD outcome)

def answerIfJoined (caller : Caller α) (fetch : Nat) (outcome : Outcome α) : Caller α :=
  if caller.joined? = some fetch then caller.answer outcome else caller

end Caller

namespace Cache

variable {α : Type}

def fresh : Cache α where
  value? := none
  pending? := none
  generation := 0
  fetches := []
  callers := []

def hasValue (cache : Cache α) : Bool :=
  cache.value?.isSome

def outcome? (cache : Cache α) (fetch : Nat) : Option (Outcome α) :=
  cache.fetches[fetch]?.bind (·.outcome?)

def serve (cache : Cache α) (value : α) (count : Nat) : Cache α :=
  { cache with
    callers := cache.callers ++ List.replicate count ⟨none, some (.value value)⟩ }

/-- Callers that join a fetch; if it is over, they have its outcome at once. -/
def join (cache : Cache α) (fetch count : Nat) : Cache α :=
  { cache with
    callers := cache.callers ++ List.replicate count ⟨some fetch, cache.outcome? fetch⟩ }

def start (cache : Cache α) : Cache α :=
  { cache with
    pending? := some cache.fetches.length
    fetches := cache.fetches ++ [⟨cache.generation, none⟩] }

/-- What the end of a fetch does to the cache; a fetch of an older generation does nothing. -/
def publish (cache : Cache α) (generation : Nat) (outcome : Outcome α) : Cache α :=
  if generation = cache.generation then
    match outcome with
    | .value value => { cache with value? := some value, pending? := none }
    | .failed _ => { cache with pending? := none }
    | .cancelled => cache
  else cache

/-- Notes the end of a fetch and answers the callers that joined it. -/
def finish (cache : Cache α) (fetch generation : Nat) (outcome : Outcome α) : Cache α :=
  { cache with
    fetches := cache.fetches.set fetch ⟨generation, some outcome⟩
    callers := cache.callers.map (·.answerIfJoined fetch outcome) }

def settle (cache : Cache α) (fetch : Nat) (outcome : Outcome α) : Cache α :=
  match cache.fetches[fetch]? with
  | some ⟨generation, none⟩ => (cache.finish fetch generation outcome).publish generation outcome
  | _ => cache

/-- Starts a fetch for the callers, and ends it if the script says how. -/
def launch (script : Script α) (cache : Cache α) (count : Nat) : Cache α :=
  let fetch := cache.fetches.length
  let started := cache.start.join fetch count
  match script fetch with
  | some outcome => started.settle fetch outcome
  | none => started

def get (script : Script α) (cache : Cache α) (count : Nat) : Cache α :=
  match cache.value?, cache.pending? with
  | some value, _ => cache.serve value count
  | none, some fetch => cache.join fetch count
  | none, none => if count = 0 then cache else cache.launch script count

def invalidate (cache : Cache α) : Cache α :=
  { cache with value? := none, pending? := none, generation := cache.generation + 1 }

def cancel (cache : Cache α) (caller : Nat) : Cache α :=
  { cache with callers := cache.callers.modify caller (·.answer .cancelled) }

def step (script : Script α) (cache : Cache α) : CacheStep α → Cache α
  | .get count => cache.get script count
  | .invalidate => cache.invalidate
  | .cancel caller => cache.cancel caller
  | .resolve fetch outcome => cache.settle fetch outcome

def run (script : Script α) (cache : Cache α) (steps : List (CacheStep α)) : Cache α :=
  steps.foldl (step script) cache

def answer? (cache : Cache α) (caller : Nat) : Option (Outcome α) :=
  cache.callers[caller]?.bind (·.outcome?)

end Cache

end WorkItemQuery
