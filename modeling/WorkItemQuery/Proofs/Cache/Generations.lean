import Mathlib.Data.List.DropRight
import WorkItemQuery.Proofs.Cache.History

/-!
# Generations

Between two invalidations a cache stays in one generation, and the fetches of that generation are
the ones that were started since the last invalidation.
-/

namespace WorkItemQuery

namespace CacheStep

def isInvalidate {α : Type} : CacheStep α → Bool
  | .invalidate => true
  | _ => false

end CacheStep

namespace Cache

variable {α : Type} {script : Script α} {cache : Cache α} {steps : List (CacheStep α)}

/-- The steps of a session up to the most recent invalidation. -/
def opening (steps : List (CacheStep α)) : List (CacheStep α) :=
  steps.rdropWhile (!·.isInvalidate)

def sinceOpening (steps : List (CacheStep α)) : List (CacheStep α) :=
  steps.rtakeWhile (!·.isInvalidate)

theorem opening_append_sinceOpening (steps : List (CacheStep α)) :
    opening steps ++ sinceOpening steps = steps :=
  List.rdropWhile_append_rtakeWhile

theorem invalidate_notMem_sinceOpening (steps : List (CacheStep α)) :
    CacheStep.invalidate ∉ sinceOpening steps :=
  fun member => by cases List.mem_rtakeWhile_imp member

theorem opening_cases (steps : List (CacheStep α)) :
    opening steps = [] ∨ ∃ first, opening steps = first ++ [.invalidate] := by
  induction steps using List.reverseRecOn with
  | nil => exact .inl (List.rdropWhile_nil _)
  | append_singleton steps last ih =>
      unfold opening at ih ⊢
      rw [List.rdropWhile_concat]
      cases last with
      | invalidate => exact .inr ⟨steps, rfl⟩
      | get count => exact ih
      | cancel caller => exact ih
      | resolve fetch outcome => exact ih

@[simp] theorem settle_generation (fetch : Nat) (outcome : Outcome α) :
    (cache.settle fetch outcome).generation = cache.generation := by
  by_cases unfinished : cache.Unfinished fetch
  · obtain ⟨generation, found⟩ := unfinished
    rw [settle_of_open found, publish_generation]
    rfl
  · rw [settle_eq_self (not_exists.mp unfinished)]

theorem step_generation {step : CacheStep α} (quiet : .invalidate ≠ step) :
    (cache.step script step).generation = cache.generation := by
  cases step with
  | get count =>
      simp only [step, get]
      split
      · rfl
      · rfl
      · split
        · rfl
        · cases scripted : script cache.fetches.length with
          | none =>
              rw [launch_of_silent scripted]
              rfl
          | some outcome =>
              rw [launch_of_scripted scripted, settle_generation]
              rfl
  | invalidate => exact absurd rfl quiet
  | cancel caller => rfl
  | resolve fetch outcome => exact settle_generation fetch outcome

theorem run_generation (quiet : .invalidate ∉ steps) :
    (cache.run script steps).generation = cache.generation := by
  induction steps generalizing cache with
  | nil => rfl
  | cons step steps ih =>
      obtain ⟨quietStep, quietSteps⟩ := not_or.mp (List.mem_cons.not.mp quiet)
      rw [run_cons, ih quietSteps, step_generation quietStep]

theorem step_fetches_generation {step : CacheStep α} {number : Nat} {fetch : Fetch α}
    (found : (cache.step script step).fetches[number]? = some fetch)
    (new : cache.fetches.length ≤ number) : fetch.generation = cache.generation := by
  have bound := (List.getElem?_eq_some_iff.mp found).1
  by_cases starts : cache.Starts step
  · rw [step_fetches_length_of_starts starts] at bound
    obtain rfl : number = cache.fetches.length := by omega
    obtain ⟨count, launched⟩ := step_of_starts script starts
    rw [launched] at found
    obtain ⟨later, laterFound, generation, _⟩ :=
      (launch_extends_start script cache count).fetches (start_fetches_getElem? cache)
    obtain rfl := Option.some.inj (laterFound.symm.trans found)
    exact generation
  · rw [step_fetches_length_of_not_starts starts] at bound
    omega

theorem run_fetches_generation {number : Nat} {fetch : Fetch α} (quiet : .invalidate ∉ steps)
    (found : (cache.run script steps).fetches[number]? = some fetch)
    (new : cache.fetches.length ≤ number) : fetch.generation = cache.generation := by
  induction steps generalizing cache with
  | nil => exact absurd (List.getElem?_eq_some_iff.mp found).1 (Nat.not_lt_of_le new)
  | cons step steps ih =>
      obtain ⟨quietStep, quietSteps⟩ := not_or.mp (List.mem_cons.not.mp quiet)
      rw [run_cons] at found
      by_cases atOnce : number < (cache.step script step).fetches.length
      · have started := List.getElem?_eq_getElem atOnce
        obtain ⟨later, laterFound, generation, _⟩ := (Extends.run _ steps).fetches started
        obtain rfl := Option.some.inj (laterFound.symm.trans found)
        exact generation.trans (step_fetches_generation started new)
      · exact (ih quietSteps found (Nat.le_of_not_lt atOnce)).trans (step_generation quietStep)

theorem reached_opening_run (script : Script α) (steps : List (CacheStep α)) :
    reached script steps =
      (reached script (opening steps)).run script (sinceOpening steps) := by
  rw [← reached_append, opening_append_sinceOpening]

theorem stale_at_opening (script : Script α) (steps : List (CacheStep α)) {number : Nat}
    {fetch : Fetch α}
    (found : (reached script (opening steps)).fetches[number]? = some fetch) :
    fetch.generation < (reached script (opening steps)).generation := by
  rcases opening_cases steps with fresh | ⟨first, invalidated⟩
  · rw [fresh] at found
    cases found
  · rw [invalidated, reached_concat] at found ⊢
    exact Nat.lt_succ_of_le ((WellFormed.reached script first).current.bounded found)

/-- The fetches of the current generation are those started since the last invalidation. -/
theorem generation_eq_iff (script : Script α) (steps : List (CacheStep α)) {number : Nat}
    {fetch : Fetch α} (found : (reached script steps).fetches[number]? = some fetch) :
    fetch.generation = (reached script steps).generation ↔
      (reached script (opening steps)).fetches.length ≤ number := by
  have quiet := invalidate_notMem_sinceOpening steps
  rw [reached_opening_run] at found ⊢
  rw [run_generation quiet]
  constructor
  · intro now
    apply Nat.le_of_not_lt
    intro old
    have former := List.getElem?_eq_getElem old
    obtain ⟨later, laterFound, generation, _⟩ := (Extends.run _ _).fetches former
    obtain rfl := Option.some.inj (laterFound.symm.trans found)
    exact Nat.ne_of_lt (stale_at_opening script steps former) (generation.symm.trans now)
  · exact run_fetches_generation quiet found

end Cache

end WorkItemQuery
