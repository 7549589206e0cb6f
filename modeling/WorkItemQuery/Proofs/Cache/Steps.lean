import WorkItemQuery.Proofs.Cache.WellFormed

/-!
# What a step does

Which steps start a fetch, which end one, and whom they answer.
-/

namespace WorkItemQuery

namespace Cache

variable {α : Type} {script : Script α} {cache : Cache α}

def Unfinished (cache : Cache α) (fetch : Nat) : Prop :=
  ∃ generation, cache.fetches[fetch]? = some ⟨generation, none⟩

def Waits (cache : Cache α) (caller : Nat) : Prop :=
  caller < cache.callers.length ∧ cache.answer? caller = none

def joined? (cache : Cache α) (caller : Nat) : Option Nat :=
  cache.callers[caller]?.bind (·.joined?)

/-- A step that starts a fetch: somebody asks, and there is neither a value nor a pending fetch. -/
def Starts (cache : Cache α) (step : CacheStep α) : Prop :=
  ∃ count, step = .get count ∧ 0 < count ∧ cache.value? = none ∧ cache.pending? = none

/-- The fetch that callers join who find no value: the pending one, or else the next one. -/
def joinable (cache : Cache α) : Nat :=
  cache.pending?.getD cache.fetches.length

theorem unfinished_iff {fetch : Nat} :
    cache.Unfinished fetch ↔ fetch < cache.fetches.length ∧ cache.outcome? fetch = none := by
  constructor
  · intro unfinished
    obtain ⟨generation, found⟩ := unfinished
    exact ⟨(List.getElem?_eq_some_iff.mp found).1,
      by simp only [outcome?, found, Option.bind_some]⟩
  · intro underWay
    obtain ⟨bound, open?⟩ := underWay
    have found := List.getElem?_eq_getElem bound
    simp only [outcome?, found, Option.bind_some] at open?
    exact ⟨cache.fetches[fetch].generation, by rw [found, ← open?]⟩

theorem outcome?_settle {fetch : Nat} (unfinished : cache.Unfinished fetch) (outcome : Outcome α) :
    (cache.settle fetch outcome).outcome? fetch = some outcome := by
  obtain ⟨generation, found⟩ := unfinished
  rw [settle_of_open found, Cache.outcome?, publish_fetches, finish_fetches_getElem? found,
    if_pos rfl, Option.bind_some]

theorem outcome?_settle_of_ne {fetch number : Nat} (other : fetch ≠ number) (outcome : Outcome α) :
    (cache.settle fetch outcome).outcome? number = cache.outcome? number := by
  by_cases unfinished : cache.Unfinished fetch
  · obtain ⟨generation, found⟩ := unfinished
    rw [settle_of_open found, Cache.outcome?, publish_fetches, finish_fetches_getElem? found,
      if_neg other, Cache.outcome?]
  · rw [settle_eq_self (not_exists.mp unfinished)]

@[simp] theorem settle_fetches_length (fetch : Nat) (outcome : Outcome α) :
    (cache.settle fetch outcome).fetches.length = cache.fetches.length := by
  by_cases unfinished : cache.Unfinished fetch
  · obtain ⟨generation, found⟩ := unfinished
    rw [settle_of_open found, publish_fetches]
    exact List.length_set
  · rw [settle_eq_self (not_exists.mp unfinished)]

@[simp] theorem settle_callers_length (fetch : Nat) (outcome : Outcome α) :
    (cache.settle fetch outcome).callers.length = cache.callers.length := by
  by_cases unfinished : cache.Unfinished fetch
  · obtain ⟨generation, found⟩ := unfinished
    rw [settle_of_open found, publish_callers]
    exact List.length_map _
  · rw [settle_eq_self (not_exists.mp unfinished)]

theorem launch_fetches_length (count : Nat) :
    (cache.launch script count).fetches.length = cache.fetches.length + 1 := by
  have started : (cache.start.join cache.fetches.length count).fetches.length =
      cache.fetches.length + 1 := List.length_append
  cases scripted : script cache.fetches.length with
  | none => rw [launch_of_silent scripted, started]
  | some outcome => rw [launch_of_scripted scripted, settle_fetches_length, started]

theorem start_fetches_getElem? (cache : Cache α) :
    cache.start.fetches[cache.fetches.length]? = some ⟨cache.generation, none⟩ :=
  List.getElem?_concat_length

theorem start_unfinished (cache : Cache α) (count : Nat) :
    (cache.start.join cache.fetches.length count).Unfinished cache.fetches.length :=
  ⟨cache.generation, start_fetches_getElem? cache⟩

theorem launch_extends_start (script : Script α) (cache : Cache α) (count : Nat) :
    Extends (cache.start.join cache.fetches.length count) (cache.launch script count) := by
  cases scripted : script cache.fetches.length with
  | none => exact launch_of_silent scripted ▸ Extends.refl _
  | some outcome => exact launch_of_scripted scripted ▸ Extends.settle _ _ _

theorem outcome?_launch (count : Nat) :
    (cache.launch script count).outcome? cache.fetches.length = script cache.fetches.length := by
  have unfinished := start_unfinished cache count
  cases scripted : script cache.fetches.length with
  | none => rw [launch_of_silent scripted, (unfinished_iff.mp unfinished).2]
  | some outcome => rw [launch_of_scripted scripted, outcome?_settle unfinished]

theorem step_of_starts (script : Script α) {step : CacheStep α} (starts : cache.Starts step) :
    ∃ count, cache.step script step = cache.launch script count := by
  obtain ⟨count, rfl, positive, empty, idle⟩ := starts
  exact ⟨count, by simp only [Cache.step, get, empty, idle, if_neg (Nat.ne_of_gt positive)]⟩

theorem step_fetches_length_of_starts {step : CacheStep α} (starts : cache.Starts step) :
    (cache.step script step).fetches.length = cache.fetches.length + 1 := by
  obtain ⟨count, launched⟩ := step_of_starts script starts
  rw [launched, launch_fetches_length]

theorem step_fetches_length_of_not_starts {step : CacheStep α} (starts : ¬ cache.Starts step) :
    (cache.step script step).fetches.length = cache.fetches.length := by
  cases step with
  | get count =>
      simp only [Cache.step, get]
      split
      · rfl
      · rfl
      · next empty idle =>
          split
          · rfl
          · next positive =>
              have count_pos := Nat.pos_of_ne_zero positive
              exact absurd ⟨count, rfl, count_pos, empty, idle⟩ starts
  | invalidate => rfl
  | cancel caller => rfl
  | resolve fetch outcome => exact settle_fetches_length fetch outcome

theorem outcome?_launch_of_ne {fetch : Nat} (other : cache.fetches.length ≠ fetch) (count : Nat) :
    (cache.launch script count).outcome? fetch = cache.outcome? fetch := by
  have started : (cache.start.join cache.fetches.length count).outcome? fetch =
      cache.outcome? fetch := by
    simp only [outcome?, start, join]
    rcases Nat.lt_or_gt_of_ne other with later | earlier
    · have beyond : (cache.fetches ++ [(⟨cache.generation, none⟩ : Fetch α)]).length ≤ fetch :=
        List.length_append ▸ later
      rw [List.getElem?_eq_none beyond, List.getElem?_eq_none (Nat.le_of_lt later)]
    · rw [List.getElem?_append_left earlier]
  cases scripted : script cache.fetches.length with
  | none => rw [launch_of_silent scripted, started]
  | some outcome => rw [launch_of_scripted scripted, outcome?_settle_of_ne other, started]

theorem ended_by_step {step : CacheStep α} {fetch : Nat} {outcome : Outcome α}
    (ended : (cache.step script step).outcome? fetch = some outcome) :
    cache.outcome? fetch = some outcome ∨
      (cache.Starts step ∧ fetch = cache.fetches.length ∧ script fetch = some outcome) ∨
      (step = .resolve fetch outcome ∧ cache.Unfinished fetch) := by
  cases step with
  | get count =>
      simp only [Cache.step, get] at ended
      split at ended
      · exact .inl ended
      · exact .inl ended
      · next empty idle =>
          split at ended
          · exact .inl ended
          · next positive =>
              by_cases new : cache.fetches.length = fetch
              · subst new
                rw [outcome?_launch] at ended
                exact .inr (.inl
                  ⟨⟨count, rfl, Nat.pos_of_ne_zero positive, empty, idle⟩, rfl, ended⟩)
              · rw [outcome?_launch_of_ne new] at ended
                exact .inl ended
  | invalidate => exact .inl ended
  | cancel caller => exact .inl ended
  | resolve resolved given =>
      by_cases same : resolved = fetch
      · subst same
        by_cases unfinished : cache.Unfinished resolved
        · have gave : some given = some outcome :=
            (outcome?_settle unfinished given).symm.trans ended
          exact .inr (.inr ⟨by rw [Option.some.inj gave], unfinished⟩)
        · have unchanged : cache.step script (.resolve resolved given) = cache :=
            settle_eq_self (not_exists.mp unfinished) given
          exact .inl (unchanged ▸ ended)
      · exact .inl ((outcome?_settle_of_ne same given).symm.trans ended)

theorem getElem?_newcomer {callers : List (Caller α)} {caller : Caller α} {count number : Nat}
    (old : callers.length ≤ number) (new : number < callers.length + count) :
    (callers ++ List.replicate count caller)[number]? = some caller := by
  rw [List.getElem?_append_right old, List.getElem?_replicate_of_lt (by omega)]

theorem step_callers_length (cache : Cache α) (step : CacheStep α) :
    (cache.step script step).callers.length =
      cache.callers.length + match step with
        | .get count => count
        | _ => 0 := by
  have added : ∀ (count : Nat) (caller : Caller α),
      (cache.callers ++ List.replicate count caller).length = cache.callers.length + count :=
    fun count caller => by rw [List.length_append, List.length_replicate]
  cases step with
  | get count =>
      simp only [Cache.step, get]
      split
      · exact added count _
      · exact added count _
      · split
        · next zero => rw [zero, Nat.add_zero]
        · cases scripted : script cache.fetches.length with
          | none =>
              rw [launch_of_silent scripted]
              exact added count _
          | some outcome =>
              rw [launch_of_scripted scripted, settle_callers_length]
              exact added count _
  | invalidate => rfl
  | cancel caller => exact List.length_modify _ _ _
  | resolve fetch outcome => exact settle_callers_length fetch outcome

theorem newcomer_served {value : α} {count number : Nat} (held : cache.value? = some value)
    (old : cache.callers.length ≤ number) (new : number < cache.callers.length + count) :
    (cache.step script (.get count)).callers[number]? = some ⟨none, some (.value value)⟩ := by
  simp only [Cache.step, get, held, serve]
  exact getElem?_newcomer old new

theorem newcomer_joins (script : Script α) {count number : Nat} (empty : cache.value? = none)
    (old : cache.callers.length ≤ number) (new : number < cache.callers.length + count) :
    (cache.step script (.get count)).callers[number]? =
      some ⟨some cache.joinable, (cache.step script (.get count)).outcome? cache.joinable⟩ := by
  have positive : count ≠ 0 := by omega
  cases pending : cache.pending? with
  | some fetch =>
      simp only [Cache.step, get, empty, joinable, pending, Option.getD_some, join]
      exact getElem?_newcomer old new
  | none =>
      simp only [Cache.step, get, empty, joinable, pending, if_neg positive, Option.getD_none,
        outcome?_launch]
      have unfinished := start_unfinished cache count
      have joined : (cache.start.join cache.fetches.length count).callers[number]? =
          some ⟨some cache.fetches.length, none⟩ := by
        have silent : cache.start.outcome? cache.fetches.length = none :=
          (unfinished_iff.mp unfinished).2
        simp only [join, silent]
        exact getElem?_newcomer old new
      cases scripted : script cache.fetches.length with
      | none => rw [launch_of_silent scripted, joined]
      | some outcome =>
          obtain ⟨generation, found⟩ := unfinished
          rw [launch_of_scripted scripted, settle_of_open found, publish_callers,
            finish_callers_getElem?, joined, Option.map_some, Caller.answerIfJoined_of_joined rfl]
          rfl

theorem lt_of_answered {caller : Nat} {answer : Outcome α}
    (answered : cache.answer? caller = some answer) : caller < cache.callers.length := by
  obtain ⟨entry, found, _⟩ := Option.bind_eq_some_iff.mp answered
  exact (List.getElem?_eq_some_iff.mp found).1

theorem Extends.joined? {after : Cache α} (extended : Extends cache after) {caller : Nat}
    (bound : caller < cache.callers.length) : after.joined? caller = cache.joined? caller := by
  have found := List.getElem?_eq_getElem bound
  obtain ⟨later, laterFound, joined, _⟩ := extended.callers found
  simp only [Cache.joined?, found, laterFound, Option.bind_some, joined]

theorem waits_iff {caller : Nat} :
    cache.Waits caller ↔ cache.callers[caller]? = some ⟨cache.joined? caller, none⟩ := by
  constructor
  · intro waits
    obtain ⟨bound, unanswered⟩ := waits
    have found := List.getElem?_eq_getElem bound
    simp only [answer?, joined?, found, Option.bind_some] at unanswered ⊢
    rw [← unanswered]
  · intro found
    exact ⟨(List.getElem?_eq_some_iff.mp found).1, by simp only [answer?, found, Option.bind_some]⟩

/-- The end of a fetch answers those who joined it, and nobody else. -/
theorem answer?_settle_iff {fetch caller : Nat} {outcome answer : Outcome α}
    (waits : cache.Waits caller) :
    (cache.settle fetch outcome).answer? caller = some answer ↔
      cache.Unfinished fetch ∧ cache.joined? caller = some fetch ∧ answer = outcome := by
  have waiting := waits_iff.mp waits
  by_cases unfinished : cache.Unfinished fetch
  · obtain ⟨generation, found⟩ := unfinished
    rw [settle_of_open found, answer?, publish_callers, finish_callers_getElem?, waiting,
      Option.map_some, Option.bind_some]
    by_cases joined : cache.joined? caller = some fetch
    · rw [Caller.answerIfJoined_of_joined joined]
      constructor
      · intro answered
        exact ⟨⟨generation, found⟩, joined, (Option.some.inj answered).symm⟩
      · intro due
        obtain ⟨_, _, rfl⟩ := due
        rfl
    · rw [Caller.answerIfJoined_of_other joined]
      constructor
      · intro answered
        cases answered
      · intro due
        obtain ⟨_, joins, _⟩ := due
        exact absurd joins joined
  · rw [settle_eq_self (not_exists.mp unfinished), waits.2]
    constructor
    · intro answered
      cases answered
    · intro due
      obtain ⟨started, _⟩ := due
      exact absurd started unfinished

/-- Callers that come in addition answer nobody. -/
theorem answer?_of_append {after : Cache α} {newcomers : List (Caller α)} {caller : Nat}
    (waits : cache.Waits caller) (callers : after.callers = cache.callers ++ newcomers) :
    after.answer? caller = none := by
  rw [answer?, callers, List.getElem?_append_left waits.1, waits_iff.mp waits]
  rfl

theorem answer?_launch (wellFormed : WellFormed cache) (script : Script α) (count : Nat)
    {caller : Nat} (waits : cache.Waits caller) :
    (cache.launch script count).answer? caller = none := by
  cases scripted : script cache.fetches.length with
  | none =>
      rw [launch_of_silent scripted]
      exact answer?_of_append waits rfl
  | some outcome =>
      rw [launch_of_scripted scripted]
      have kept : (cache.start.join cache.fetches.length count).callers[caller]? =
          cache.callers[caller]? := List.getElem?_append_left waits.1
      have sameJoined : (cache.start.join cache.fetches.length count).joined? caller =
          cache.joined? caller := congrArg (Option.bind · Caller.joined?) kept
      have waiting := waits_iff.mp waits
      have stillWaits := waits_iff.mpr (by rw [kept, waiting, sameJoined])
      apply Option.eq_none_iff_forall_ne_some.mpr
      intro answer answered
      obtain ⟨_, joined, _⟩ := (answer?_settle_iff stillWaits).mp answered
      rw [sameJoined] at joined
      -- Nobody can have joined the fetch before it was started.
      obtain ⟨entry, found, _⟩ := wellFormed.callers.joined waiting joined
      exact Nat.lt_irrefl _ (List.getElem?_eq_some_iff.mp found).1

theorem answered_by_step (wellFormed : WellFormed cache) {step : CacheStep α} {caller : Nat}
    {answer : Outcome α} (waits : cache.Waits caller)
    (answered : (cache.step script step).answer? caller = some answer) :
    (∃ fetch, cache.joined? caller = some fetch ∧
        (cache.step script step).outcome? fetch = some answer) ∨
      (step = .cancel caller ∧ answer = .cancelled) := by
  have waiting := waits_iff.mp waits
  have unanswered : ∀ {after : Cache α} {newcomers : List (Caller α)},
      after.callers = cache.callers ++ newcomers → after.answer? caller ≠ some answer := by
    intro after newcomers callers answers
    rw [answer?_of_append waits callers] at answers
    cases answers
  cases step with
  | get count =>
      simp only [Cache.step, get] at answered
      split at answered
      · exact absurd answered (unanswered rfl)
      · exact absurd answered (unanswered rfl)
      · split at answered
        · exact absurd answered (unanswered (List.append_nil _).symm)
        · rw [answer?_launch wellFormed script count waits] at answered
          cases answered
  | invalidate => exact absurd answered (unanswered (List.append_nil _).symm)
  | cancel cancelled =>
      simp only [Cache.step, answer?, cancel_callers_getElem?, waiting, Option.map_some,
        Option.bind_some] at answered
      split at answered
      · next same =>
          subst same
          exact .inr ⟨rfl, (Option.some.inj answered).symm⟩
      · cases answered
  | resolve fetch outcome =>
      obtain ⟨unfinished, joined, rfl⟩ := (answer?_settle_iff waits).mp answered
      exact .inl ⟨fetch, joined, outcome?_settle unfinished answer⟩

end Cache

end WorkItemQuery
