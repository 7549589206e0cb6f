import WorkItemQuery.Proofs.Cache.Answers
import WorkItemQuery.Proofs.Cache.Generations

/-!
# Retries

When all fetches of a generation have ended and none gave a value, the next caller starts another
one, unless one of them was cancelled. A cancelled fetch stays pending and jams the cache: until the
next invalidation nothing is fetched any more, and whoever asks is cancelled at once. Main
statement: `retried_unless_cancelled`.
-/

namespace WorkItemQuery

namespace Cache

variable {α : Type} {script : Script α} {cache : Cache α} {fetch : Nat}
  {steps : List (CacheStep α)}

structure Jammed (cache : Cache α) (fetch : Nat) : Prop where
  pending : cache.pending? = some fetch
  cancelled : cache.outcome? fetch = some .cancelled

namespace Jammed

theorem settle_pending (jammed : cache.Jammed fetch) (wellFormed : WellFormed cache) (other : Nat)
    (outcome : Outcome α) : (cache.settle other outcome).pending? = some fetch := by
  refine (settle_beside_current ?_ outcome).2.trans jammed.pending
  -- The only fetch of the generation that could still publish is the one that has ended.
  rintro generation found rfl
  have pending := (wellFormed.current.pending_of_open found).2
  obtain rfl : fetch = other := Option.some.inj (jammed.pending.symm.trans pending)
  have open? : cache.outcome? fetch = none := (unfinished_iff.mp ⟨_, found⟩).2
  cases open?.symm.trans jammed.cancelled

theorem step (jammed : cache.Jammed fetch) (wellFormed : WellFormed cache) {step : CacheStep α}
    (quiet : .invalidate ≠ step) : (cache.step script step).Jammed fetch where
  pending := by
    cases step with
    | get count =>
        have empty := wellFormed.current.value_eq_none jammed.pending
        rw [Cache.step, get_of_pending empty jammed.pending]
        exact jammed.pending
    | invalidate => exact absurd rfl quiet
    | cancel caller => exact jammed.pending
    | resolve other outcome => exact jammed.settle_pending wellFormed other outcome
  cancelled := (Extends.step cache step).outcome? jammed.cancelled

theorem step_fetches_length (jammed : cache.Jammed fetch) (step : CacheStep α) :
    (cache.step script step).fetches.length = cache.fetches.length := by
  refine step_fetches_length_of_not_starts ?_
  rintro ⟨_, _, _, _, idle⟩
  cases idle.symm.trans jammed.pending

theorem newcomer_cancelled (jammed : cache.Jammed fetch) (wellFormed : WellFormed cache)
    {step : CacheStep α} {caller : Nat} (old : cache.callers.length ≤ caller)
    (new : caller < (cache.step script step).callers.length) :
    (cache.step script step).answer? caller = some .cancelled := by
  rw [step_callers_length] at new
  cases step with
  | get count =>
      have empty := wellFormed.current.value_eq_none jammed.pending
      have joins : cache.joinable = fetch := by rw [joinable, jammed.pending, Option.getD_some]
      have settled : (cache.step script (.get count)).outcome? fetch = some .cancelled :=
        (Extends.step cache (.get count)).outcome? jammed.cancelled
      rw [answer?, newcomer_joins script empty old new, Option.bind_some, joins, settled]
  | invalidate => exact absurd new (Nat.not_lt_of_le old)
  | cancel cancelled => exact absurd new (Nat.not_lt_of_le old)
  | resolve resolved outcome => exact absurd new (Nat.not_lt_of_le old)

/-- Until the next invalidation nothing is fetched, and everybody who comes is cancelled. -/
theorem run (script : Script α) (jammed : cache.Jammed fetch) (wellFormed : WellFormed cache)
    (quiet : .invalidate ∉ steps) :
    (cache.run script steps).Jammed fetch ∧
      (cache.run script steps).fetches.length = cache.fetches.length ∧
      ∀ caller, cache.callers.length ≤ caller → caller < (cache.run script steps).callers.length →
        (cache.run script steps).answer? caller = some .cancelled := by
  induction steps generalizing cache with
  | nil => exact ⟨jammed, rfl, fun caller old new => absurd new (Nat.not_lt_of_le old)⟩
  | cons step steps ih =>
      obtain ⟨quietStep, quietSteps⟩ := not_or.mp (List.mem_cons.not.mp quiet)
      obtain ⟨stillJammed, fetches, answers⟩ :=
        ih (jammed.step wellFormed quietStep) (wellFormed.step step) quietSteps
      refine ⟨stillJammed, fetches.trans (jammed.step_fetches_length step), ?_⟩
      intro caller old new
      by_cases atOnce : caller < (cache.step script step).callers.length
      · exact (Extends.run _ steps).answer? (jammed.newcomer_cancelled wellFormed old atOnce)
      · exact answers caller (Nat.le_of_not_lt atOnce) new

end Jammed

theorem jammed_of_cancelled (script : Script α) (steps : List (CacheStep α))
    (current : (reached script (opening steps)).fetches.length ≤ fetch)
    (ended : Ended script steps fetch .cancelled) : (reached script steps).Jammed fetch := by
  have cancelled := (outcome?_reached_iff script steps fetch .cancelled).mpr ended
  obtain ⟨entry, found, known⟩ := Option.bind_eq_some_iff.mp cancelled
  have now := (generation_eq_iff script steps found).mpr current
  rcases (WellFormed.reached script steps).current.current found now with
    ⟨_, failed⟩ | ⟨_, pending | ⟨_, _, given⟩⟩
  · cases known.symm.trans failed
  · exact ⟨pending, cancelled⟩
  · cases known.symm.trans given

theorem pending_eq_none_of_settled (script : Script α) (steps : List (CacheStep α))
    (settled : ∀ fetch, (reached script (opening steps)).fetches.length ≤ fetch →
      fetch < (reached script steps).fetches.length → ∃ outcome, Ended script steps fetch outcome)
    (uncancelled : ∀ fetch, (reached script (opening steps)).fetches.length ≤ fetch →
      ¬ Ended script steps fetch .cancelled) :
    (reached script steps).pending? = none := by
  cases pending : (reached script steps).pending? with
  | none => rfl
  | some fetch =>
      obtain ⟨entry, found, now, outcomes⟩ :=
        (WellFormed.reached script steps).current.pending pending
      have current := (generation_eq_iff script steps found).mp now
      have ledger : (reached script steps).outcome? fetch = entry.outcome? := by
        simp only [outcome?, found, Option.bind_some]
      rcases outcomes with underWay | cancelled
      · obtain ⟨outcome, ended⟩ := settled fetch current (List.getElem?_eq_some_iff.mp found).1
        have known := (outcome?_reached_iff script steps fetch outcome).mpr ended
        cases underWay.symm.trans (ledger.symm.trans known)
      · exact absurd (ended_of_outcome? script steps (ledger.trans cancelled))
          (uncancelled fetch current)

/-- If there is no value and all fetches since the last invalidation have ended, none of them
cancelled, whoever asks starts exactly one fetch and joins it. If one was cancelled, there is no
value, and until the next invalidation nothing is fetched and everybody who asks is cancelled. -/
theorem retried_unless_cancelled (script : Script α) (steps : List (CacheStep α)) :
    let first := (reached script (opening steps)).fetches.length
    let before := reached script steps
    (before.value? = none →
      (∀ fetch, first ≤ fetch → fetch < before.fetches.length →
        ∃ outcome, Ended script steps fetch outcome) →
      (∀ fetch, first ≤ fetch → ¬ Ended script steps fetch .cancelled) →
      ∀ count, 0 < count →
        (reached script (steps ++ [.get count])).fetches.length = before.fetches.length + 1 ∧
        ∀ caller, before.callers.length ≤ caller → caller < before.callers.length + count →
          Joins script (steps ++ [.get count]) caller before.fetches.length) ∧
    ∀ fetch, first ≤ fetch → Ended script steps fetch .cancelled →
      ∀ later, .invalidate ∉ later →
        let after := reached script (steps ++ later)
        after.value? = none ∧ after.fetches.length = before.fetches.length ∧
          ∀ caller, before.callers.length ≤ caller → caller < after.callers.length →
            after.answer? caller = some .cancelled := by
  intro first before
  constructor
  · intro empty settled uncancelled count positive
    have idle : before.pending? = none :=
      pending_eq_none_of_settled script steps settled uncancelled
    have starts : before.Starts (.get count) := ⟨count, rfl, positive, empty, idle⟩
    refine ⟨?_, fun caller old new => ⟨steps, ⟨count, occurs_last steps _, old, new⟩, empty, ?_⟩⟩
    · rw [reached_concat, step_fetches_length_of_starts starts]
    · rw [joinable, idle, Option.getD_none]
  · intro fetch current cancelled later quiet after
    have jammed : before.Jammed fetch := jammed_of_cancelled script steps current cancelled
    have wellFormed : WellFormed after := WellFormed.reached script (steps ++ later)
    have continued : after = before.run script later := reached_append steps later
    obtain ⟨stillJammed, fetches, answers⟩ :=
      jammed.run script (WellFormed.reached script steps) quiet
    rw [← continued] at stillJammed fetches answers
    exact ⟨wellFormed.current.value_eq_none stillJammed.pending, fetches, answers⟩

/-- The only fetch there was has ended, cancelled, and the next caller does not make another one
start but is cancelled as well. -/
theorem cancelled_fetch_not_retried :
    let script : Script Nat := fun _ => none
    let steps : List (CacheStep Nat) := [.get 1, .resolve 0 .cancelled]
    let before := reached script steps
    let after := reached script (steps ++ [.get 1])
    before.value? = none ∧ before.fetches.length = 1 ∧ Ended script steps 0 .cancelled ∧
      after.fetches.length = 1 ∧ ¬ Joins script (steps ++ [.get 1]) 1 1 ∧
      after.answer? 1 = some .cancelled := by
  intro script steps before after
  have ended : Ended script steps 0 .cancelled := (outcome?_reached_iff script steps 0 _).mp rfl
  refine ⟨rfl, rfl, ended, rfl, fun joins => ?_, rfl⟩
  cases (joins_iff script _ 1 1).mp joins

theorem failed_fetch_retried_then_jammed :
    let script : Script Nat := fun fetch =>
      if fetch = 1 then some (.failed (.raised .runtime "")) else
        if fetch = 2 then some .cancelled else none
    let failing : List (CacheStep Nat) := [.get 1, .invalidate, .get 1]
    let jamming : List (CacheStep Nat) := failing ++ [.get 2]
    let later : List (CacheStep Nat) := [.resolve 0 (.value 3), .get 1]
    (reached script failing).value? = none ∧
      (reached script jamming).fetches.length = 3 ∧ Joins script jamming 3 2 ∧
      Ended script jamming 2 .cancelled ∧ .invalidate ∉ later ∧
      (reached script (jamming ++ later)).fetches.length = 3 ∧
      (reached script (jamming ++ later)).answer? 4 = some .cancelled := by
  intro script failing jamming later
  have known (fetch : Nat) (outcome : Outcome Nat) :=
    outcome?_reached_iff script failing fetch outcome
  have failed : Ended script failing 1 (.failed (.raised .runtime "")) := (known 1 _).mp rfl
  have settled : ∀ fetch, 1 ≤ fetch → fetch < 2 →
      ∃ outcome, Ended script failing fetch outcome := by
    intro fetch current started
    obtain rfl : fetch = 1 := by omega
    exact ⟨_, failed⟩
  have uncancelled : ∀ fetch, 1 ≤ fetch → ¬ Ended script failing fetch .cancelled := by
    intro fetch current ended
    rcases fetch with _ | _ | fetch <;> cases (known _ _).mpr ended
  have cancelled : Ended script jamming 2 .cancelled :=
    (outcome?_reached_iff script jamming 2 _).mp rfl
  have quiet : .invalidate ∉ later := by simp [later]
  obtain ⟨fetches, joins⟩ :=
    (retried_unless_cancelled script failing).1 rfl settled uncancelled 2 (by decide)
  obtain ⟨_, stillFetches, answers⟩ :=
    (retried_unless_cancelled script jamming).2 2 (by decide) cancelled later quiet
  exact ⟨rfl, fetches, joins 3 (by decide) (by decide), cancelled, quiet, stillFetches,
    answers 4 (by decide) (by decide)⟩

end Cache

end WorkItemQuery
