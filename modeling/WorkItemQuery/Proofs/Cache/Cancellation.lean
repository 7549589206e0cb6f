import WorkItemQuery.Proofs.Cache.Answers

/-!
# Cancellation

A caller that is cancelled leaves no other trace than its own answer: the fetches of a session, what
they publish and what everybody else is answered are those of the session in which nobody is
cancelled. Main statement: `cancelling_disturbs_nobody_else`.
-/

namespace WorkItemQuery

namespace CacheStep

def isCancel {α : Type} : CacheStep α → Bool
  | .cancel _ => true
  | _ => false

end CacheStep

namespace Cache

variable {α : Type} {script : Script α} {cache left right : Cache α} {apart : Nat → Prop}
  {steps earlier : List (CacheStep α)}

def withoutCancels (steps : List (CacheStep α)) : List (CacheStep α) :=
  steps.filter (!·.isCancel)

def withCallers (cache : Cache α) (callers : List (Caller α)) : Cache α :=
  { cache with callers }

@[simp] theorem withCallers_value (callers : List (Caller α)) :
    (cache.withCallers callers).value? = cache.value? := rfl

@[simp] theorem withCallers_pending (callers : List (Caller α)) :
    (cache.withCallers callers).pending? = cache.pending? := rfl

@[simp] theorem withCallers_fetches (callers : List (Caller α)) :
    (cache.withCallers callers).fetches = cache.fetches := rfl

theorem publish_withCallers (callers : List (Caller α)) (generation : Nat) (outcome : Outcome α) :
    (cache.withCallers callers).publish generation outcome =
      (cache.publish generation outcome).withCallers callers := by
  rw [withCallers, withCallers, publish_withLedger, publish_fetches]

theorem settle_withCallers (cache : Cache α) (fetch : Nat) (outcome : Outcome α) :
    ∃ (after : Cache α) (change : Caller α → Caller α), ∀ callers,
      (cache.withCallers callers).settle fetch outcome =
        after.withCallers (callers.map change) := by
  by_cases unfinished : cache.Unfinished fetch
  · obtain ⟨generation, found⟩ := unfinished
    refine ⟨(cache.finish fetch generation outcome).publish generation outcome,
      (·.answerIfJoined fetch outcome), fun callers => ?_⟩
    have alsoFound : (cache.withCallers callers).fetches[fetch]? = some ⟨generation, none⟩ := found
    rw [settle_of_open alsoFound, ← publish_withCallers]
    rfl
  · refine ⟨cache, id, fun callers => ?_⟩
    have alsoClosed : ¬ (cache.withCallers callers).Unfinished fetch := unfinished
    rw [settle_eq_self (not_exists.mp alsoClosed), List.map_id]

theorem start_join_withCallers (cache : Cache α) (callers : List (Caller α)) (fetch count : Nat) :
    (cache.withCallers callers).start.join fetch count =
      cache.start.withCallers
        (callers ++ List.replicate count ⟨some fetch, cache.start.outcome? fetch⟩) := rfl

theorem launch_withCallers (script : Script α) (cache : Cache α) (count : Nat) :
    ∃ (after : Cache α) (change : Caller α → Caller α) (newcomers : List (Caller α)), ∀ callers,
      (cache.withCallers callers).launch script count =
        after.withCallers (callers.map change ++ newcomers) := by
  let joining := List.replicate count
    (⟨some cache.fetches.length, cache.start.outcome? cache.fetches.length⟩ : Caller α)
  cases scripted : script cache.fetches.length with
  | none =>
      refine ⟨cache.start, id, joining, fun callers => ?_⟩
      have silent : script (cache.withCallers callers).fetches.length = none := scripted
      rw [launch_of_silent silent, withCallers_fetches, start_join_withCallers, List.map_id]
  | some outcome =>
      obtain ⟨after, change, settled⟩ :=
        settle_withCallers cache.start cache.fetches.length outcome
      refine ⟨after, change, joining.map change, fun callers => ?_⟩
      have also : script (cache.withCallers callers).fetches.length = some outcome := scripted
      rw [launch_of_scripted also, withCallers_fetches, start_join_withCallers, settled,
        List.map_append]

/-- A step that cancels nobody does the same to all callers, and it does so whoever they are. -/
theorem step_withCallers (script : Script α) (cache : Cache α) {step : CacheStep α}
    (lenient : step.isCancel = false) :
    ∃ (after : Cache α) (change : Caller α → Caller α) (newcomers : List (Caller α)), ∀ callers,
      (cache.withCallers callers).step script step =
        after.withCallers (callers.map change ++ newcomers) := by
  have unchanged : ∀ (after : Cache α) (callers : List (Caller α)),
      after.withCallers callers = after.withCallers (callers.map id ++ []) := by
    intro after callers
    rw [List.map_id, List.append_nil]
  cases step with
  | get count =>
      simp only [step, get, withCallers_value, withCallers_pending]
      cases cache.value? with
      | some value =>
          refine ⟨cache, id, List.replicate count ⟨none, some (.value value)⟩, fun callers => ?_⟩
          rw [List.map_id]
          rfl
      | none =>
          cases cache.pending? with
          | some fetch =>
              refine ⟨cache, id, List.replicate count ⟨some fetch, cache.outcome? fetch⟩,
                fun callers => ?_⟩
              rw [List.map_id]
              rfl
          | none =>
              by_cases nobody : count = 0
              · simp only [if_pos nobody]
                exact ⟨cache, id, [], unchanged cache⟩
              · simp only [if_neg nobody]
                exact launch_withCallers script cache count
  | invalidate => exact ⟨cache.invalidate, id, [], unchanged cache.invalidate⟩
  | cancel caller => cases lenient
  | resolve fetch outcome =>
      obtain ⟨after, change, settled⟩ := settle_withCallers cache fetch outcome
      refine ⟨after, change, [], fun callers => ?_⟩
      rw [List.append_nil]
      exact settled callers

/-- Two caches that differ at most in what some callers were answered. -/
structure AgreeBeside (apart : Nat → Prop) (left right : Cache α) : Prop where
  rest : left.withCallers [] = right.withCallers []
  length : left.callers.length = right.callers.length
  caller : ∀ number, ¬ apart number → left.callers[number]? = right.callers[number]?

/-- Only a caller that waits can be cancelled. -/
theorem cancel_eq_self {caller : Nat} (done : ¬ cache.Waits caller) :
    cache.cancel caller = cache := by
  have unchanged : (cache.cancel caller).callers = cache.callers := by
    apply List.ext_getElem?
    intro number
    rw [cancel_callers_getElem?]
    cases found : cache.callers[number]? with
    | none => rfl
    | some entry =>
        rw [Option.map_some]
        by_cases same : caller = number
        · subst same
          obtain ⟨joined, answered | answer⟩ := entry
          · exact absurd (waits_iff.mpr (by rw [found, joined?, found]; rfl)) done
          · rw [if_pos rfl]
            rfl
        · rw [if_neg same]
  exact congrArg cache.withCallers unchanged

namespace AgreeBeside

theorem refl (cache : Cache α) : AgreeBeside apart cache cache where
  rest := rfl
  length := rfl
  caller _ _ := rfl

theorem step (agree : AgreeBeside apart left right) {step : CacheStep α}
    (lenient : step.isCancel = false) :
    AgreeBeside apart (left.step script step) (right.step script step) := by
  obtain ⟨after, change, newcomers, alike⟩ := step_withCallers script left lenient
  have sameRest : left.withCallers right.callers = right :=
    congrArg (·.withCallers right.callers) agree.rest
  have here : left.step script step =
      after.withCallers (left.callers.map change ++ newcomers) := alike left.callers
  have there : right.step script step =
      after.withCallers (right.callers.map change ++ newcomers) := by
    rw [← alike right.callers, sameRest]
  rw [here, there]
  refine ⟨rfl, ?_, ?_⟩
  · simp only [withCallers, List.length_append, List.length_map, agree.length]
  · intro number patient
    simp only [withCallers, List.getElem?_append, List.length_map, List.getElem?_map, agree.length,
      agree.caller number patient]

theorem cancel (agree : AgreeBeside apart left right) {caller : Nat}
    (waiting : left.Waits caller → apart caller) :
    AgreeBeside apart (left.cancel caller) right := by
  by_cases waits : left.Waits caller
  · refine ⟨agree.rest, (List.length_modify _ _ _).trans agree.length, ?_⟩
    intro number patient
    have other : caller ≠ number := fun same => patient (same ▸ waiting waits)
    rw [cancel_callers_getElem?, ← agree.caller number patient]
    simp only [if_neg other, Option.map_id']
  · rw [cancel_eq_self waits]
    exact agree

theorem answer? (agree : AgreeBeside apart left right) {caller : Nat} (patient : ¬ apart caller) :
    left.answer? caller = right.answer? caller := by
  rw [Cache.answer?, Cache.answer?, agree.caller caller patient]

theorem value? (agree : AgreeBeside apart left right) : left.value? = right.value? := by
  simpa using congrArg Cache.value? agree.rest

theorem pending? (agree : AgreeBeside apart left right) : left.pending? = right.pending? := by
  simpa using congrArg Cache.pending? agree.rest

theorem fetches (agree : AgreeBeside apart left right) : left.fetches = right.fetches := by
  simpa using congrArg Cache.fetches agree.rest

end AgreeBeside

theorem reached_agrees_without_cancels (script : Script α) (within : earlier <+: steps) :
    AgreeBeside (Interrupted script steps) (reached script earlier)
      (reached script (withoutCancels earlier)) := by
  induction earlier using List.reverseRecOn with
  | nil => exact .refl fresh
  | append_singleton earlier last ih =>
      have agree := ih ((List.prefix_append earlier [last]).trans within)
      rw [withoutCancels, List.filter_append, reached_concat]
      cases lenient : last.isCancel with
      | false =>
          rw [List.filter_cons_of_pos (by rw [lenient]; rfl), List.filter_nil, reached_concat]
          exact agree.step lenient
      | true =>
          rw [List.filter_cons_of_neg (by rw [lenient]; decide), List.filter_nil, List.append_nil]
          cases last with
          | cancel caller => exact agree.cancel fun waits => ⟨earlier, within, waits⟩
          | get count => cases lenient
          | invalidate => cases lenient
          | resolve fetch outcome => cases lenient

/-- Each step of a session does the same as in the session without the cancellations: it leads to
the same value, the same pending fetch and the same fetches, started and ended alike, it tells the
log the same, and it gives the same answers to all callers who are never cancelled while they wait.
A cancellation itself, where the other session stands still, does nothing of all that. -/
theorem cancelling_disturbs_nobody_else (script : Script α) (steps earlier : List (CacheStep α))
    (step : CacheStep α) (occurs : Occurs steps earlier step) :
    let before := reached script earlier
    let after := reached script (earlier ++ [step])
    let calmBefore := reached script (withoutCancels earlier)
    let calmAfter := reached script (withoutCancels (earlier ++ [step]))
    after.hasValue = calmAfter.hasValue ∧ after.value? = calmAfter.value? ∧
      after.pending? = calmAfter.pending? ∧ after.fetches = calmAfter.fetches ∧
      recordsSince before after = recordsSince calmBefore calmAfter ∧
      ∀ caller, ¬ Interrupted script steps caller → ∀ answer,
        (caller, answer) ∈ answeredSince before after ↔
          (caller, answer) ∈ answeredSince calmBefore calmAfter := by
  intro before after calmBefore calmAfter
  have agreeBefore : AgreeBeside (Interrupted script steps) before calmBefore :=
    reached_agrees_without_cancels script ((List.prefix_append earlier [step]).trans occurs)
  have agreeAfter : AgreeBeside (Interrupted script steps) after calmAfter :=
    reached_agrees_without_cancels script occurs
  refine ⟨congrArg Option.isSome agreeAfter.value?, agreeAfter.value?, agreeAfter.pending?,
    agreeAfter.fetches, ?_, ?_⟩
  · rw [recordsSince, recordsSince, agreeBefore.fetches, agreeAfter.fetches]
  · intro caller patient answer
    rw [mem_answeredSince, mem_answeredSince, agreeBefore.answer? patient,
      agreeAfter.answer? patient]

theorem patient_caller_beside_cancelled_starter :
    let script : Script Nat := fun _ => none
    let resolved : CacheStep Nat := .resolve 0 (.value 7)
    let steps : List (CacheStep Nat) := [.get 2, .cancel 0, resolved]
    Occurs steps [.get 2, .cancel 0] resolved ∧
      Interrupted script steps 0 ∧ ¬ Interrupted script steps 1 ∧
      (reached script steps).fetches = (reached script (withoutCancels steps)).fetches ∧
      (1, .value 7) ∈
        answeredSince (reached script [.get 2]) (reached script [.get 2, resolved]) := by
  intro script resolved steps
  have occurs : Occurs steps [.get 2, .cancel 0] resolved := List.prefix_refl _
  have starter : Interrupted script steps 0 := ⟨[.get 2], ⟨[resolved], rfl⟩, by decide, rfl⟩
  have patient : ¬ Interrupted script steps 1 := by
    intro interrupted
    obtain ⟨earlier, cancelled, _⟩ := interrupted
    have member : CacheStep.cancel 1 ∈ steps := cancelled.subset (by simp)
    simp [steps, resolved] at member
  obtain ⟨_, _, _, fetches, _, answers⟩ :=
    cancelling_disturbs_nobody_else script steps [.get 2, .cancel 0] resolved occurs
  exact ⟨occurs, starter, patient, fetches,
    (answers 1 patient (.value 7)).mp (mem_answeredSince.mpr ⟨rfl, rfl⟩)⟩

end Cache

end WorkItemQuery
