import Mathlib.Data.Set.Card
import Mathlib.Order.Interval.Finset.Nat
import WorkItemQuery.Proofs.Cache.Generations

/-!
# Single flight

Between two invalidations a cache has at most one fetch under way, and starts another one only when
the one before it has failed. Main statement: `single_flight`.
-/

namespace WorkItemQuery

namespace Cache

variable {α : Type} {script : Script α} {cache : Cache α}
  {steps earlier interval later : List (CacheStep α)}

/-- Nothing but an invalidation takes a value away. -/
theorem step_value (wellFormed : WellFormed cache) {value : α} (held : cache.value? = some value)
    {step : CacheStep α} (quiet : .invalidate ≠ step) :
    (cache.step script step).value? = some value := by
  cases step with
  | get count => simp only [step, get, held, serve]
  | invalidate => exact absurd rfl quiet
  | cancel caller => exact held
  | resolve fetch outcome =>
      refine (settle_beside_current ?_ outcome).1.trans held
      rintro generation found rfl
      have pending := (wellFormed.current.pending_of_open found).2
      cases pending.symm.trans (wellFormed.current.settled held)

theorem run_fetches_length_of_value (wellFormed : WellFormed cache) {value : α}
    (held : cache.value? = some value) (quiet : .invalidate ∉ steps) :
    (cache.run script steps).fetches.length = cache.fetches.length := by
  induction steps generalizing cache with
  | nil => rfl
  | cons step steps ih =>
      obtain ⟨quietStep, quietSteps⟩ := not_or.mp (List.mem_cons.not.mp quiet)
      have starts : ¬ cache.Starts step := by
        intro starts
        obtain ⟨_, _, _, empty, _⟩ := starts
        cases empty.symm.trans held
      rw [run_cons, ih (wellFormed.step step) (step_value wellFormed held quietStep) quietSteps,
        step_fetches_length_of_not_starts starts]

/-- Of the fetches that are started in an interval without invalidations all but the last have
failed. -/
theorem failed_or_last (script : Script α) (quiet : .invalidate ∉ interval) {fetch : Nat}
    (new : (reached script earlier).fetches.length ≤ fetch)
    (started : fetch < (reached script (earlier ++ interval)).fetches.length) :
    (∃ failure, Ended script (earlier ++ interval) fetch (.failed failure)) ∨
      fetch + 1 = (reached script (earlier ++ interval)).fetches.length := by
  obtain ⟨entry, found⟩ :
      ∃ entry, (reached script (earlier ++ interval)).fetches[fetch]? = some entry :=
    ⟨_, List.getElem?_eq_getElem started⟩
  have generation : entry.generation = (reached script (earlier ++ interval)).generation := by
    rw [reached_append] at found ⊢
    rw [run_generation quiet]
    exact run_fetches_generation quiet found new
  rcases (WellFormed.reached script _).current.current found generation with
    ⟨failure, failed⟩ | ⟨last, _⟩
  · refine .inl ⟨failure, ended_of_outcome? script _ ?_⟩
    simp only [outcome?, found, Option.bind_some, failed]
  · exact .inr last

theorem under_way_unique (script : Script α) (later : List (CacheStep α))
    (quiet : .invalidate ∉ interval) {fetch other : Nat}
    (fetchNew : (reached script earlier).fetches.length ≤ fetch)
    (fetchStarted : fetch < (reached script (earlier ++ interval)).fetches.length)
    (otherNew : (reached script earlier).fetches.length ≤ other)
    (otherStarted : other < (reached script (earlier ++ interval)).fetches.length)
    (fetchOpen : ∀ outcome, ¬ Ended script (earlier ++ interval ++ later) fetch outcome)
    (otherOpen : ∀ outcome, ¬ Ended script (earlier ++ interval ++ later) other outcome) :
    fetch = other := by
  have last : ∀ number, (reached script earlier).fetches.length ≤ number →
      number < (reached script (earlier ++ interval)).fetches.length →
      (∀ outcome, ¬ Ended script (earlier ++ interval ++ later) number outcome) →
      number + 1 = (reached script (earlier ++ interval)).fetches.length := by
    intro number new started unended
    refine (failed_or_last script quiet new started).resolve_left ?_
    intro hasFailed
    obtain ⟨failure, failed⟩ := hasFailed
    exact unended _ (failed.mono (List.prefix_append _ later))
  have fetchLast := last fetch fetchNew fetchStarted fetchOpen
  have otherLast := last other otherNew otherStarted otherOpen
  omega

/-- At most the last fetch of an interval is none of its failures. -/
theorem fetches_length_le_failures (script : Script α) (earlier : List (CacheStep α))
    (quiet : .invalidate ∉ interval) :
    (reached script (earlier ++ interval)).fetches.length ≤
      (reached script earlier).fetches.length + 1 +
        {fetch | (reached script earlier).fetches.length ≤ fetch ∧
          fetch < (reached script (earlier ++ interval)).fetches.length ∧
          ∃ failure, Ended script (earlier ++ interval) fetch (.failed failure)}.ncard := by
  have failed : (Finset.Ico (reached script earlier).fetches.length
        ((reached script (earlier ++ interval)).fetches.length - 1) : Set Nat) ⊆
      {fetch | (reached script earlier).fetches.length ≤ fetch ∧
        fetch < (reached script (earlier ++ interval)).fetches.length ∧
        ∃ failure, Ended script (earlier ++ interval) fetch (.failed failure)} := by
    intro fetch member
    obtain ⟨new, notLast⟩ := Finset.mem_Ico.mp member
    have started : fetch < (reached script (earlier ++ interval)).fetches.length := by omega
    refine ⟨new, started, (failed_or_last script quiet new started).resolve_right ?_⟩
    omega
  have counted := Set.ncard_le_ncard failed
    ((Set.finite_lt_nat _).subset fun _ member => member.2.1)
  rw [Set.ncard_coe_finset, Nat.card_Ico] at counted
  omega

/-- A step starts at most one fetch, however many callers come, and does so only when there is
neither a value nor a pending fetch. In an interval without invalidations at most one of the
fetches started in it is under way at any later time, there is at most one more of them than have
failed by the end, and there is none once there is a value. -/
theorem single_flight (script : Script α) (earlier interval later : List (CacheStep α))
    (quiet : .invalidate ∉ interval) :
    let opening := reached script earlier
    let closing := reached script (earlier ++ interval)
    (∀ step, closing.Starts step ∧
          (closing.step script step).fetches.length = closing.fetches.length + 1 ∨
        ¬ closing.Starts step ∧
          (closing.step script step).fetches.length = closing.fetches.length) ∧
    (∀ fetch other,
      opening.fetches.length ≤ fetch → fetch < closing.fetches.length →
      opening.fetches.length ≤ other → other < closing.fetches.length →
      (∀ outcome, ¬ Ended script (earlier ++ interval ++ later) fetch outcome) →
      (∀ outcome, ¬ Ended script (earlier ++ interval ++ later) other outcome) →
      fetch = other) ∧
    closing.fetches.length ≤ opening.fetches.length + 1 +
      {fetch | opening.fetches.length ≤ fetch ∧ fetch < closing.fetches.length ∧
        ∃ failure, Ended script (earlier ++ interval) fetch (.failed failure)}.ncard ∧
    (∀ value, opening.value? = some value →
      closing.fetches.length = opening.fetches.length) := by
  intro opening closing
  refine ⟨?_, ?_, ?_, ?_⟩
  · intro step
    by_cases starts : closing.Starts step
    · exact .inl ⟨starts, step_fetches_length_of_starts starts⟩
    · exact .inr ⟨starts, step_fetches_length_of_not_starts starts⟩
  · intro fetch other fetchNew fetchStarted otherNew otherStarted fetchOpen otherOpen
    exact under_way_unique script later quiet fetchNew fetchStarted otherNew otherStarted
      fetchOpen otherOpen
  · exact fetches_length_le_failures script earlier quiet
  · intro value held
    have unchanged : (opening.run script interval).fetches.length = opening.fetches.length :=
      run_fetches_length_of_value (WellFormed.reached script earlier) held quiet
    rw [← unchanged]
    exact congrArg (fun cache => cache.fetches.length) (reached_append earlier interval)

theorem second_flight_after_failure :
    let script : Script Nat := fun fetch =>
      if fetch = 0 then some (.failed (.raised .runtime "")) else none
    let interval : List (CacheStep Nat) := [.get 2, .get 1, .cancel 2]
    .invalidate ∉ interval ∧
      (reached script ([.invalidate] ++ interval)).fetches.length = 2 ∧
      2 ≤ 0 + 1 + {fetch | 0 ≤ fetch ∧ fetch < 2 ∧
        ∃ failure, Ended script ([.invalidate] ++ interval) fetch (.failed failure)}.ncard := by
  intro script interval
  have quiet : .invalidate ∉ interval := by simp [interval]
  exact ⟨quiet, rfl, (single_flight script [.invalidate] interval [] quiet).2.2.1⟩

end Cache

end WorkItemQuery
