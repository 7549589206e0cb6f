import WorkItemQuery.Cache.Session

/-!
# The ledger of a cache

A step is made of a few single changes, and each of them only adds to the ledger: a fetch keeps its
generation, a caller keeps the fetch it joined, and an outcome that is on record stays.
-/

namespace WorkItemQuery

namespace Caller

variable {α : Type}

@[simp] theorem answerIfJoined_joined (caller : Caller α) (fetch : Nat) (outcome : Outcome α) :
    (caller.answerIfJoined fetch outcome).joined? = caller.joined? := by
  unfold answerIfJoined
  split <;> rfl

theorem answerIfJoined_of_joined {caller : Caller α} {fetch : Nat}
    (joined : caller.joined? = some fetch) (outcome : Outcome α) :
    caller.answerIfJoined fetch outcome = caller.answer outcome :=
  if_pos joined

theorem answerIfJoined_of_other {caller : Caller α} {fetch : Nat}
    (other : caller.joined? ≠ some fetch) (outcome : Outcome α) :
    caller.answerIfJoined fetch outcome = caller :=
  if_neg other

theorem answer_of_answered {caller : Caller α} {answered : Outcome α}
    (known : caller.outcome? = some answered) (outcome : Outcome α) :
    (caller.answer outcome).outcome? = some answered := by
  simp only [answer, known, Option.getD_some]

end Caller

namespace Cache

variable {α : Type} {script : Script α} {cache before middle after : Cache α}

@[simp] theorem run_nil : cache.run script [] = cache := rfl

@[simp] theorem run_cons (step : CacheStep α) (steps : List (CacheStep α)) :
    cache.run script (step :: steps) = (cache.step script step).run script steps := rfl

@[simp] theorem run_append (first second : List (CacheStep α)) :
    cache.run script (first ++ second) = (cache.run script first).run script second :=
  List.foldl_append

theorem get_of_value {value : α} (held : cache.value? = some value) (count : Nat) :
    cache.get script count = cache.serve value count := by
  simp only [get, held]

theorem get_of_pending {fetch : Nat} (empty : cache.value? = none)
    (pending : cache.pending? = some fetch) (count : Nat) :
    cache.get script count = cache.join fetch count := by
  simp only [get, empty, pending]

theorem get_of_idle (empty : cache.value? = none) (idle : cache.pending? = none) (count : Nat) :
    cache.get script count = if count = 0 then cache else cache.launch script count := by
  simp only [get, empty, idle]

theorem launch_of_silent (silent : script cache.fetches.length = none) {count : Nat} :
    cache.launch script count = cache.start.join cache.fetches.length count := by
  simp only [launch, silent]

theorem launch_of_scripted {outcome : Outcome α}
    (scripted : script cache.fetches.length = some outcome) {count : Nat} :
    cache.launch script count =
      (cache.start.join cache.fetches.length count).settle cache.fetches.length outcome := by
  simp only [launch, scripted]

inductive Move : Cache α → Cache α → Prop where
  | serve {cache : Cache α} {value : α} (held : cache.value? = some value) (count : Nat) :
      Move cache (cache.serve value count)
  | join {cache : Cache α} {fetch : Nat} (empty : cache.value? = none)
      (pending : cache.pending? = some fetch) (count : Nat) : Move cache (cache.join fetch count)
  | start {cache : Cache α} (empty : cache.value? = none) (idle : cache.pending? = none) :
      Move cache cache.start
  | settle (cache : Cache α) (fetch : Nat) (outcome : Outcome α) :
      Move cache (cache.settle fetch outcome)
  | invalidate (cache : Cache α) : Move cache cache.invalidate
  | cancel (cache : Cache α) (caller : Nat) : Move cache (cache.cancel caller)

theorem step_preserves {property : Cache α → Prop}
    (moved : ∀ {before after : Cache α}, Move before after → property before → property after)
    (holds : property cache) (step : CacheStep α) : property (cache.step script step) := by
  cases step with
  | get count =>
      simp only [Cache.step, get]
      split
      · next held => exact moved (.serve held count) holds
      · next empty pending => exact moved (.join empty pending count) holds
      · next empty idle =>
          split
          · exact holds
          · have started : property cache.start := moved (.start empty idle) holds
            have stillEmpty : cache.start.value? = none := empty
            have joined : property (cache.start.join cache.fetches.length count) :=
              moved (.join stillEmpty rfl count) started
            cases scripted : script cache.fetches.length with
            | none => exact launch_of_silent scripted ▸ joined
            | some outcome => exact launch_of_scripted scripted ▸ moved (.settle _ _ _) joined
  | invalidate => exact moved (.invalidate cache) holds
  | cancel caller => exact moved (.cancel cache caller) holds
  | resolve fetch outcome => exact moved (.settle cache fetch outcome) holds

theorem run_preserves {property : Cache α → Prop}
    (moved : ∀ {before after : Cache α}, Move before after → property before → property after)
    (holds : property cache) (steps : List (CacheStep α)) : property (cache.run script steps) := by
  induction steps generalizing cache with
  | nil => exact holds
  | cons step steps ih => exact ih (step_preserves moved holds step)

@[simp] theorem publish_fetches (generation : Nat) (outcome : Outcome α) :
    (cache.publish generation outcome).fetches = cache.fetches := by
  unfold publish
  cases outcome <;> simp only [apply_ite Cache.fetches, ite_self]

@[simp] theorem publish_callers (generation : Nat) (outcome : Outcome α) :
    (cache.publish generation outcome).callers = cache.callers := by
  unfold publish
  cases outcome <;> simp only [apply_ite Cache.callers, ite_self]

@[simp] theorem publish_generation (generation : Nat) (outcome : Outcome α) :
    (cache.publish generation outcome).generation = cache.generation := by
  unfold publish
  cases outcome <;> simp only [apply_ite Cache.generation, ite_self]

/-- What is published depends on nothing but the generation. -/
theorem publish_withLedger (cache : Cache α) (fetches : List (Fetch α)) (callers : List (Caller α))
    (generation : Nat) (outcome : Outcome α) :
    ({ cache with fetches, callers } : Cache α).publish generation outcome =
      { cache.publish generation outcome with fetches, callers } := by
  unfold publish
  split
  · cases outcome <;> rfl
  · rfl

theorem publish_of_stale (cache : Cache α) {generation : Nat}
    (stale : generation ≠ cache.generation) (outcome : Outcome α) :
    cache.publish generation outcome = cache :=
  if_neg stale

theorem publish_value (cache : Cache α) {generation : Nat} (now : generation = cache.generation)
    (value : α) :
    cache.publish generation (.value value) =
      { cache with value? := some value, pending? := none } :=
  if_pos now

theorem publish_failed (cache : Cache α) {generation : Nat} (now : generation = cache.generation)
    (failure : Failure) :
    cache.publish generation (.failed failure) = { cache with pending? := none } :=
  if_pos now

theorem publish_cancelled (cache : Cache α) (generation : Nat) :
    cache.publish generation .cancelled = cache :=
  ite_self cache

theorem settle_of_open {fetch generation : Nat}
    (unfinished : cache.fetches[fetch]? = some ⟨generation, none⟩) (outcome : Outcome α) :
    cache.settle fetch outcome =
      (cache.finish fetch generation outcome).publish generation outcome := by
  simp only [settle, unfinished]

theorem settle_eq_self {fetch : Nat}
    (closed : ∀ generation, cache.fetches[fetch]? ≠ some ⟨generation, none⟩) (outcome : Outcome α) :
    cache.settle fetch outcome = cache := by
  unfold settle
  split
  · next found => exact absurd found (closed _)
  · rfl

/-- The end of a fetch of an older generation changes neither the value nor what is pending. -/
theorem settle_beside_current {fetch : Nat}
    (stale : ∀ generation, cache.fetches[fetch]? = some ⟨generation, none⟩ →
      generation ≠ cache.generation) (outcome : Outcome α) :
    (cache.settle fetch outcome).value? = cache.value? ∧
      (cache.settle fetch outcome).pending? = cache.pending? := by
  by_cases unfinished : ∃ generation, cache.fetches[fetch]? = some ⟨generation, none⟩
  · obtain ⟨generation, found⟩ := unfinished
    rw [settle_of_open found,
      publish_of_stale (cache.finish fetch generation outcome) (stale generation found)]
    exact ⟨rfl, rfl⟩
  · rw [settle_eq_self (not_exists.mp unfinished)]
    exact ⟨rfl, rfl⟩

theorem finish_fetches_getElem? {fetch generation : Nat}
    (unfinished : cache.fetches[fetch]? = some ⟨generation, none⟩) (outcome : Outcome α)
    (number : Nat) :
    (cache.finish fetch generation outcome).fetches[number]? =
      if fetch = number then some ⟨generation, some outcome⟩ else cache.fetches[number]? := by
  have bound : fetch < cache.fetches.length := (List.getElem?_eq_some_iff.mp unfinished).1
  simp only [finish, List.getElem?_set, if_pos bound]

theorem finish_callers_getElem? (fetch generation : Nat) (outcome : Outcome α) (number : Nat) :
    (cache.finish fetch generation outcome).callers[number]? =
      cache.callers[number]?.map (·.answerIfJoined fetch outcome) :=
  List.getElem?_map

theorem cancel_callers_getElem? (caller number : Nat) :
    (cache.cancel caller).callers[number]? =
      cache.callers[number]?.map fun entry =>
        if caller = number then entry.answer .cancelled else entry :=
  List.getElem?_modify _ _ _ _

/-- What a later state keeps of an earlier one. -/
structure Extends (before after : Cache α) : Prop where
  fetches : ∀ {number : Nat} {fetch : Fetch α}, before.fetches[number]? = some fetch →
    ∃ later, after.fetches[number]? = some later ∧ later.generation = fetch.generation ∧
      ∀ outcome, fetch.outcome? = some outcome → later.outcome? = some outcome
  callers : ∀ {number : Nat} {caller : Caller α}, before.callers[number]? = some caller →
    ∃ later, after.callers[number]? = some later ∧ later.joined? = caller.joined? ∧
      ∀ outcome, caller.outcome? = some outcome → later.outcome? = some outcome

namespace Extends

theorem refl (cache : Cache α) : Extends cache cache where
  fetches found := ⟨_, found, rfl, fun _ known => known⟩
  callers found := ⟨_, found, rfl, fun _ known => known⟩

theorem trans (first : Extends before middle) (second : Extends middle after) :
    Extends before after where
  fetches found := by
    obtain ⟨next, nextFound, nextGeneration, nextKnown⟩ := first.fetches found
    obtain ⟨last, lastFound, lastGeneration, lastKnown⟩ := second.fetches nextFound
    exact ⟨last, lastFound, lastGeneration.trans nextGeneration,
      fun outcome known => lastKnown outcome (nextKnown outcome known)⟩
  callers found := by
    obtain ⟨next, nextFound, nextJoined, nextKnown⟩ := first.callers found
    obtain ⟨last, lastFound, lastJoined, lastKnown⟩ := second.callers nextFound
    exact ⟨last, lastFound, lastJoined.trans nextJoined,
      fun outcome known => lastKnown outcome (nextKnown outcome known)⟩

theorem of_append {fetches : List (Fetch α)} {callers : List (Caller α)}
    (sameFetches : after.fetches = before.fetches ++ fetches)
    (sameCallers : after.callers = before.callers ++ callers) : Extends before after where
  fetches {number fetch} found := by
    have bound := (List.getElem?_eq_some_iff.mp found).1
    exact ⟨fetch, by rw [sameFetches, List.getElem?_append_left bound, found], rfl,
      fun _ known => known⟩
  callers {number caller} found := by
    have bound := (List.getElem?_eq_some_iff.mp found).1
    exact ⟨caller, by rw [sameCallers, List.getElem?_append_left bound, found], rfl,
      fun _ known => known⟩

theorem of_same (sameFetches : after.fetches = before.fetches)
    (sameCallers : after.callers = before.callers) : Extends before after := by
  apply of_append
  · rw [sameFetches, List.append_nil]
  · rw [sameCallers, List.append_nil]

theorem finish {fetch generation : Nat}
    (unfinished : cache.fetches[fetch]? = some ⟨generation, none⟩) (outcome : Outcome α) :
    Extends cache (cache.finish fetch generation outcome) where
  fetches {number entry} found := by
    rw [finish_fetches_getElem? unfinished]
    by_cases same : fetch = number
    · subst same
      obtain rfl : ⟨generation, none⟩ = entry := Option.some.inj (unfinished.symm.trans found)
      exact ⟨_, if_pos rfl, rfl, fun _ known => by cases known⟩
    · exact ⟨entry, by rw [if_neg same, found], rfl, fun _ known => known⟩
  callers {number caller} found := by
    refine ⟨caller.answerIfJoined fetch outcome, ?_, caller.answerIfJoined_joined fetch outcome, ?_⟩
    · rw [finish_callers_getElem?, found, Option.map_some]
    · intro answered known
      unfold Caller.answerIfJoined
      split
      · exact Caller.answer_of_answered known outcome
      · exact known

theorem settle (cache : Cache α) (fetch : Nat) (outcome : Outcome α) :
    Extends cache (cache.settle fetch outcome) := by
  by_cases unfinished : ∃ generation, cache.fetches[fetch]? = some ⟨generation, none⟩
  · obtain ⟨generation, unfinished⟩ := unfinished
    rw [settle_of_open unfinished]
    exact (finish unfinished outcome).trans
      (of_same (publish_fetches generation outcome) (publish_callers generation outcome))
  · rw [settle_eq_self (not_exists.mp unfinished)]
    exact refl cache

theorem cancel (cache : Cache α) (caller : Nat) : Extends cache (cache.cancel caller) where
  fetches found := ⟨_, found, rfl, fun _ known => known⟩
  callers {number entry} found := by
    rw [cancel_callers_getElem?, found, Option.map_some]
    refine ⟨_, rfl, ?_, ?_⟩
    · split <;> rfl
    · intro answered known
      split
      · exact Caller.answer_of_answered known .cancelled
      · exact known

theorem of_move (move : Move before after) : Extends before after := by
  cases move with
  | serve held count => exact of_append (List.append_nil _).symm rfl
  | join empty pending count => exact of_append (List.append_nil _).symm rfl
  | start empty idle => exact of_append rfl (List.append_nil _).symm
  | settle fetch outcome => exact settle before fetch outcome
  | invalidate => exact of_same rfl rfl
  | cancel caller => exact cancel before caller

theorem step (cache : Cache α) (step : CacheStep α) : Extends cache (cache.step script step) :=
  step_preserves (fun move extended => extended.trans (of_move move)) (refl cache) step

theorem run (cache : Cache α) (steps : List (CacheStep α)) :
    Extends cache (cache.run script steps) :=
  run_preserves (fun move extended => extended.trans (of_move move)) (refl cache) steps

theorem fetches_length_le (extended : Extends before after) :
    before.fetches.length ≤ after.fetches.length := by
  apply Nat.le_of_not_lt
  intro shorter
  obtain ⟨later, found, _⟩ := extended.fetches (List.getElem?_eq_getElem shorter)
  exact Nat.lt_irrefl _ (List.getElem?_eq_some_iff.mp found).1

theorem callers_length_le (extended : Extends before after) :
    before.callers.length ≤ after.callers.length := by
  apply Nat.le_of_not_lt
  intro shorter
  obtain ⟨later, found, _⟩ := extended.callers (List.getElem?_eq_getElem shorter)
  exact Nat.lt_irrefl _ (List.getElem?_eq_some_iff.mp found).1

theorem outcome? (extended : Extends before after) {fetch : Nat} {outcome : Outcome α}
    (ended : before.outcome? fetch = some outcome) : after.outcome? fetch = some outcome := by
  obtain ⟨entry, found, known⟩ := Option.bind_eq_some_iff.mp ended
  obtain ⟨later, laterFound, _, kept⟩ := extended.fetches found
  simp only [Cache.outcome?, laterFound, Option.bind_some, kept outcome known]

theorem answer? (extended : Extends before after) {caller : Nat} {outcome : Outcome α}
    (answered : before.answer? caller = some outcome) : after.answer? caller = some outcome := by
  obtain ⟨entry, found, known⟩ := Option.bind_eq_some_iff.mp answered
  obtain ⟨later, laterFound, _, kept⟩ := extended.callers found
  simp only [Cache.answer?, laterFound, Option.bind_some, kept outcome known]

end Extends

end Cache

end WorkItemQuery
