import WorkItemQuery.Proofs.Cache.Answers
import WorkItemQuery.Proofs.Cache.Generations

/-!
# Freshness

A cache serves nothing that was fetched for an older generation. Main statement:
`serves_only_fresh_values`.
-/

namespace WorkItemQuery

namespace Cache

variable {α : Type} {script : Script α} {steps : List (CacheStep α)}

theorem fresh_of_value (script : Script α) (steps : List (CacheStep α)) {value : α}
    (held : (reached script steps).value? = some value) :
    ∃ fetch, (reached script (opening steps)).fetches.length ≤ fetch ∧
      Ended script steps fetch (.value value) := by
  obtain ⟨fetch, found⟩ := (WellFormed.reached script steps).current.source held
  refine ⟨fetch, (generation_eq_iff script steps found).mp rfl, ?_⟩
  apply ended_of_outcome?
  simp only [outcome?, found, Option.bind_some]

theorem settle_of_stale (script : Script α) (steps : List (CacheStep α)) {fetch : Nat}
    (stale : fetch < (reached script (opening steps)).fetches.length) (outcome : Outcome α) :
    ((reached script steps).settle fetch outcome).value? = (reached script steps).value? ∧
      ((reached script steps).settle fetch outcome).pending? = (reached script steps).pending? := by
  refine settle_beside_current (fun generation found now => ?_) outcome
  exact Nat.not_lt_of_le ((generation_eq_iff script steps found).mp now) stale

theorem mem_answeredSince_settle (script : Script α) (steps : List (CacheStep α)) {fetch : Nat}
    {outcome : Outcome α} {caller : Nat} {answer : Outcome α} :
    (caller, answer) ∈
        answeredSince (reached script steps) ((reached script steps).settle fetch outcome) ↔
      (reached script steps).Waits caller ∧ Joins script steps caller fetch ∧ answer = outcome := by
  rw [mem_answeredSince, joins_iff]
  constructor
  · intro given
    obtain ⟨unanswered, answered⟩ := given
    have bound := lt_of_answered answered
    rw [settle_callers_length] at bound
    obtain ⟨_, joined, same⟩ := (answer?_settle_iff ⟨bound, unanswered⟩).mp answered
    exact ⟨⟨bound, unanswered⟩, joined, same⟩
  · intro due
    obtain ⟨waits, joined, same⟩ := due
    refine ⟨waits.2, (answer?_settle_iff waits).mpr ⟨?_, joined, same⟩⟩
    -- A caller that waits keeps the fetch that it joined under way.
    obtain ⟨entry, found, answered⟩ :=
      (WellFormed.reached script steps).callers.joined (waits_iff.mp waits) joined
    refine unfinished_iff.mpr ⟨(List.getElem?_eq_some_iff.mp found).1, ?_⟩
    simp only [outcome?, found, Option.bind_some]
    cases known : entry.outcome? with
    | none => rfl
    | some ended => cases answered (known ▸ rfl)

/-- What a cache serves was fetched since the last invalidation, and nothing is pending meanwhile; a
fetch that was started before it changes neither the value nor what is pending when it ends, and
answers none but the callers who joined it. -/
theorem serves_only_fresh_values (script : Script α) (steps : List (CacheStep α)) :
    (∀ value, (reached script steps).value? = some value →
      (reached script steps).pending? = none ∧
        ∃ fetch, (reached script (opening steps)).fetches.length ≤ fetch ∧
          Ended script steps fetch (.value value)) ∧
    ∀ fetch outcome, fetch < (reached script (opening steps)).fetches.length →
      let before := reached script steps
      let after := before.step script (.resolve fetch outcome)
      after.hasValue = before.hasValue ∧ after.value? = before.value? ∧
        after.pending? = before.pending? ∧
        ∀ caller answer, (caller, answer) ∈ answeredSince before after ↔
          before.Waits caller ∧ Joins script steps caller fetch ∧ answer = outcome := by
  constructor
  · intro value held
    exact ⟨(WellFormed.reached script steps).current.settled held,
      fresh_of_value script steps held⟩
  · intro fetch outcome stale
    obtain ⟨value, pending⟩ := settle_of_stale script steps stale outcome
    exact ⟨congrArg Option.isSome value, value, pending,
      fun caller answer => mem_answeredSince_settle script steps⟩

theorem fresh_value_beside_stale_fetch :
    let steps : List (CacheStep Nat) := [.get 1, .invalidate, .get 1, .resolve 1 (.value 7)]
    let cache := reached (fun _ => none) steps
    cache.value? = some 7 ∧ 0 < (reached (fun _ => none) (opening steps)).fetches.length ∧
      (cache.pending? = none ∧ ∃ fetch, 1 ≤ fetch ∧ Ended (fun _ => none) steps fetch (.value 7)) ∧
      (cache.step (fun _ => none) (.resolve 0 (.value 3))).value? = cache.value? ∧
      (0, .value 3) ∈ answeredSince cache (cache.step (fun _ => none) (.resolve 0 (.value 3))) := by
  intro steps cache
  obtain ⟨served, ended⟩ := serves_only_fresh_values (fun _ => none) steps
  have stale : 0 < (reached (fun _ => none) (opening steps)).fetches.length := by decide
  obtain ⟨_, value, _, answers⟩ := ended 0 (.value 3) stale
  have waits : cache.Waits 0 := ⟨by decide, rfl⟩
  have joins : Joins (fun _ => none) steps 0 0 := (joins_iff _ steps 0 0).mpr rfl
  exact ⟨rfl, stale, served 7 rfl, value, (answers 0 (.value 3)).mpr ⟨waits, joins, rfl⟩⟩

end Cache

end WorkItemQuery
