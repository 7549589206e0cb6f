import WorkItemQuery.Proofs.Cache.Ledger

/-!
# Well-formed caches

What holds in every state that a session reaches. A fetch of the current generation has failed
unless it is the last fetch of all, and then it is pending or has given the value. A caller that has
joined a fetch is answered once the fetch is over.
-/

namespace WorkItemQuery

namespace Cache

variable {α : Type} {script : Script α} {cache before after : Cache α}

/-- How the value and the pending fetch belong to the current generation. -/
structure CurrentWellFormed (cache : Cache α) : Prop where
  settled : ∀ {value : α}, cache.value? = some value → cache.pending? = none
  source : ∀ {value : α}, cache.value? = some value →
    ∃ fetch : Nat, cache.fetches[fetch]? = some ⟨cache.generation, some (.value value)⟩
  pending : ∀ {fetch : Nat}, cache.pending? = some fetch →
    ∃ entry, cache.fetches[fetch]? = some entry ∧ entry.generation = cache.generation ∧
      (entry.outcome? = none ∨ entry.outcome? = some .cancelled)
  bounded : ∀ {number : Nat} {fetch : Fetch α}, cache.fetches[number]? = some fetch →
    fetch.generation ≤ cache.generation
  current : ∀ {number : Nat} {fetch : Fetch α}, cache.fetches[number]? = some fetch →
    fetch.generation = cache.generation →
      (∃ failure, fetch.outcome? = some (.failed failure)) ∨
        number + 1 = cache.fetches.length ∧ (cache.pending? = some number ∨
          ∃ value, cache.value? = some value ∧ fetch.outcome? = some (.value value))

/-- How callers depend on what they found or joined. -/
structure CallersWellFormed (cache : Cache α) : Prop where
  served : ∀ {number : Nat} {caller : Caller α}, cache.callers[number]? = some caller →
    caller.joined? = none → caller.outcome?.isSome
  joined : ∀ {number fetch : Nat} {caller : Caller α}, cache.callers[number]? = some caller →
    caller.joined? = some fetch → ∃ entry, cache.fetches[fetch]? = some entry ∧
      (entry.outcome?.isSome → caller.outcome?.isSome)

structure WellFormed (cache : Cache α) : Prop where
  current : CurrentWellFormed cache
  callers : CallersWellFormed cache

namespace CurrentWellFormed

theorem fresh : CurrentWellFormed (Cache.fresh : Cache α) where
  settled held := by cases held
  source held := by cases held
  pending pending := by cases pending
  bounded found := by cases found
  current found := by cases found

/-- A fetch of the current generation that is under way is the pending one. -/
theorem pending_of_open (wellFormed : CurrentWellFormed cache) {fetch : Nat}
    (unfinished : cache.fetches[fetch]? = some ⟨cache.generation, none⟩) :
    fetch + 1 = cache.fetches.length ∧ cache.pending? = some fetch := by
  rcases wellFormed.current unfinished rfl with ⟨_, failed⟩ | ⟨last, pending | ⟨_, _, given⟩⟩
  · cases failed
  · exact ⟨last, pending⟩
  · cases given

theorem value_eq_none (wellFormed : CurrentWellFormed cache) {fetch : Nat}
    (pending : cache.pending? = some fetch) : cache.value? = none := by
  cases held : cache.value? with
  | none => rfl
  | some value => cases pending.symm.trans (wellFormed.settled held)

theorem of_same (wellFormed : CurrentWellFormed before)
    (value : after.value? = before.value?) (pending : after.pending? = before.pending?)
    (generation : after.generation = before.generation)
    (fetches : after.fetches = before.fetches) : CurrentWellFormed after where
  settled := by
    rw [value, pending]
    exact wellFormed.settled
  source := by
    rw [value, generation, fetches]
    exact wellFormed.source
  pending := by
    rw [pending, generation, fetches]
    exact wellFormed.pending
  bounded := by
    rw [generation, fetches]
    exact wellFormed.bounded
  current := by
    rw [value, pending, generation, fetches]
    exact wellFormed.current

theorem start (wellFormed : CurrentWellFormed cache) (empty : cache.value? = none)
    (idle : cache.pending? = none) : CurrentWellFormed cache.start where
  settled held := by cases empty.symm.trans held
  source held := by cases empty.symm.trans held
  pending {fetch} pending := by
    obtain rfl : cache.fetches.length = fetch := Option.some.inj pending
    exact ⟨⟨cache.generation, none⟩, by simp [Cache.start], rfl, .inl rfl⟩
  bounded {number fetch} found := by
    rcases List.mem_append.mp (List.mem_of_getElem? found) with earlier | last
    · obtain ⟨place, placed⟩ := List.getElem?_of_mem earlier
      exact wellFormed.bounded placed
    · rw [List.mem_singleton.mp last]
      exact Nat.le_refl _
  current {number fetch} found now := by
    simp only [Cache.start, List.length_append, List.length_singleton] at found ⊢
    rcases Nat.lt_or_ge number cache.fetches.length with earlier | later
    · rw [List.getElem?_append_left earlier] at found
      -- With no value and nothing pending, an earlier fetch of the generation can only have failed.
      rcases wellFormed.current found now with failed | ⟨_, pending | ⟨_, held, _⟩⟩
      · exact .inl failed
      · cases idle.symm.trans pending
      · cases empty.symm.trans held
    · have bound := (List.getElem?_eq_some_iff.mp found).1
      rw [List.length_append, List.length_singleton] at bound
      obtain rfl : number = cache.fetches.length := by omega
      exact .inr ⟨rfl, .inl rfl⟩

theorem invalidate (wellFormed : CurrentWellFormed cache) : CurrentWellFormed cache.invalidate where
  settled held := by cases held
  source held := by cases held
  pending pending := by cases pending
  bounded found := Nat.le_succ_of_le (wellFormed.bounded found)
  current found now := absurd (wellFormed.bounded found) (by rw [now]; exact Nat.not_succ_le_self _)

theorem finish_bounded (wellFormed : CurrentWellFormed cache) {fetch generation : Nat}
    (unfinished : cache.fetches[fetch]? = some ⟨generation, none⟩) (outcome : Outcome α)
    {number : Nat} {entry : Fetch α}
    (found : (cache.finish fetch generation outcome).fetches[number]? = some entry) :
    entry.generation ≤ cache.generation := by
  rw [finish_fetches_getElem? unfinished] at found
  split at found
  · obtain rfl := Option.some.inj found
    have before := wellFormed.bounded unfinished
    exact before
  · exact wellFormed.bounded found

theorem finish_stale (wellFormed : CurrentWellFormed cache) {fetch generation : Nat}
    (unfinished : cache.fetches[fetch]? = some ⟨generation, none⟩)
    (stale : generation ≠ cache.generation) (outcome : Outcome α) :
    CurrentWellFormed (cache.finish fetch generation outcome) := by
  have kept : ∀ {number : Nat} {entry : Fetch α}, cache.fetches[number]? = some entry →
      entry.generation = cache.generation →
      (cache.finish fetch generation outcome).fetches[number]? = some entry := by
    intro number entry found now
    rw [finish_fetches_getElem? unfinished, if_neg, found]
    intro same
    subst same
    obtain rfl := Option.some.inj (unfinished.symm.trans found)
    exact stale now
  refine ⟨wellFormed.settled, ?_, ?_, wellFormed.finish_bounded unfinished outcome, ?_⟩
  · intro value held
    obtain ⟨source, found⟩ := wellFormed.source held
    exact ⟨source, kept found rfl⟩
  · intro pending isPending
    obtain ⟨entry, found, now, outcomes⟩ := wellFormed.pending isPending
    exact ⟨entry, kept found now, now, outcomes⟩
  · intro number entry found now
    rw [finish_fetches_getElem? unfinished] at found
    split at found
    · obtain rfl := Option.some.inj found
      exact absurd now stale
    · simpa only [finish, List.length_set] using wellFormed.current found now

/-- The pending fetch is the last of all, so the others of its generation have failed. -/
theorem failed_beside_pending (wellFormed : CurrentWellFormed cache) {fetch : Nat}
    (unfinished : cache.fetches[fetch]? = some ⟨cache.generation, none⟩) (outcome : Outcome α)
    {number : Nat} {entry : Fetch α}
    (found : (cache.finish fetch cache.generation outcome).fetches[number]? = some entry)
    (now : entry.generation = cache.generation) (other : fetch ≠ number) :
    ∃ failure, entry.outcome? = some (.failed failure) := by
  have last := (wellFormed.pending_of_open unfinished).1
  rw [finish_fetches_getElem? unfinished, if_neg other] at found
  rcases wellFormed.current found now with failed | ⟨alsoLast, _⟩
  · exact failed
  · omega

theorem publish (wellFormed : CurrentWellFormed cache) {fetch : Nat}
    (unfinished : cache.fetches[fetch]? = some ⟨cache.generation, none⟩) (outcome : Outcome α) :
    CurrentWellFormed
      ((cache.finish fetch cache.generation outcome).publish cache.generation outcome) := by
  obtain ⟨last, pending⟩ := wellFormed.pending_of_open unfinished
  have empty := wellFormed.value_eq_none pending
  have ended : (cache.finish fetch cache.generation outcome).fetches[fetch]? =
      some ⟨cache.generation, some outcome⟩ := by
    rw [finish_fetches_getElem? unfinished, if_pos rfl]
  have length : (cache.finish fetch cache.generation outcome).fetches.length =
      cache.fetches.length := List.length_set
  have bounded : ∀ {number : Nat} {entry : Fetch α},
      (cache.finish fetch cache.generation outcome).fetches[number]? = some entry →
      entry.generation ≤ cache.generation := wellFormed.finish_bounded unfinished outcome
  have others : ∀ {number : Nat} {entry : Fetch α},
      (cache.finish fetch cache.generation outcome).fetches[number]? = some entry →
      entry.generation = cache.generation → fetch ≠ number →
      ∃ failure, entry.outcome? = some (.failed failure) :=
    wellFormed.failed_beside_pending unfinished outcome
  have now : cache.generation = (cache.finish fetch cache.generation outcome).generation := rfl
  cases outcome with
  | value value =>
      rw [publish_value _ now]
      refine ⟨fun _ => rfl, ?_, fun pending => (by cases pending), bounded, ?_⟩
      · intro held same
        obtain rfl := Option.some.inj same
        exact ⟨fetch, ended⟩
      · intro number entry found now
        by_cases same : fetch = number
        · subst same
          obtain rfl := Option.some.inj (ended.symm.trans found)
          exact .inr ⟨last.trans length.symm, .inr ⟨value, rfl, rfl⟩⟩
        · exact .inl (others found now same)
  | failed failure =>
      rw [publish_failed _ now]
      refine ⟨fun _ => rfl, fun held => (by cases empty.symm.trans held),
        fun pending => (by cases pending), bounded, ?_⟩
      intro number entry found now
      by_cases same : fetch = number
      · subst same
        obtain rfl := Option.some.inj (ended.symm.trans found)
        exact .inl ⟨failure, rfl⟩
      · exact .inl (others found now same)
  | cancelled =>
      rw [publish_cancelled]
      refine ⟨fun held => (by cases empty.symm.trans held),
        fun held => (by cases empty.symm.trans held), ?_, bounded, ?_⟩
      · intro number isPending
        obtain rfl := Option.some.inj (pending.symm.trans isPending)
        exact ⟨_, ended, rfl, .inr rfl⟩
      · intro number entry found now
        by_cases same : fetch = number
        · subst same
          exact .inr ⟨last.trans length.symm, .inl pending⟩
        · exact .inl (others found now same)

theorem settle (wellFormed : CurrentWellFormed cache) (fetch : Nat) (outcome : Outcome α) :
    CurrentWellFormed (cache.settle fetch outcome) := by
  by_cases unfinished : ∃ generation, cache.fetches[fetch]? = some ⟨generation, none⟩
  · obtain ⟨generation, unfinished⟩ := unfinished
    rw [settle_of_open unfinished]
    by_cases stale : generation = cache.generation
    · subst stale
      exact wellFormed.publish unfinished outcome
    · rw [publish_of_stale (cache.finish fetch generation outcome) stale]
      exact wellFormed.finish_stale unfinished stale outcome
  · rw [settle_eq_self (not_exists.mp unfinished)]
    exact wellFormed

end CurrentWellFormed

namespace CallersWellFormed

theorem fresh : CallersWellFormed (Cache.fresh : Cache α) where
  served found := by cases found
  joined found := by cases found

theorem append (wellFormed : CallersWellFormed before) {caller : Caller α} {count : Nat}
    (fetches : after.fetches = before.fetches)
    (callers : after.callers = before.callers ++ List.replicate count caller)
    (served : caller.joined? = none → caller.outcome?.isSome)
    (joined : ∀ fetch, caller.joined? = some fetch → ∃ entry,
      before.fetches[fetch]? = some entry ∧ (entry.outcome?.isSome → caller.outcome?.isSome)) :
    CallersWellFormed after where
  served {number other} found alone := by
    rw [callers] at found
    rcases List.mem_append.mp (List.mem_of_getElem? found) with earlier | new
    · obtain ⟨place, placed⟩ := List.getElem?_of_mem earlier
      exact wellFormed.served placed alone
    · obtain rfl := List.eq_of_mem_replicate new
      exact served alone
  joined {number fetch other} found joins := by
    rw [callers] at found
    rw [fetches]
    rcases List.mem_append.mp (List.mem_of_getElem? found) with earlier | new
    · obtain ⟨place, placed⟩ := List.getElem?_of_mem earlier
      exact wellFormed.joined placed joins
    · obtain rfl := List.eq_of_mem_replicate new
      exact joined fetch joins

theorem start (wellFormed : CallersWellFormed cache) : CallersWellFormed cache.start where
  served := wellFormed.served
  joined found joins := by
    obtain ⟨entry, entryFound, answered⟩ := wellFormed.joined found joins
    have bound := (List.getElem?_eq_some_iff.mp entryFound).1
    exact ⟨entry, (List.getElem?_append_left bound).trans entryFound, answered⟩

theorem finish (wellFormed : CallersWellFormed cache) {fetch generation : Nat}
    (unfinished : cache.fetches[fetch]? = some ⟨generation, none⟩) (outcome : Outcome α) :
    CallersWellFormed (cache.finish fetch generation outcome) where
  served {number caller} found alone := by
    rw [finish_callers_getElem?] at found
    obtain ⟨former, formerFound, rfl⟩ := Option.map_eq_some_iff.mp found
    rw [Caller.answerIfJoined_joined] at alone
    rw [Caller.answerIfJoined_of_other (by rw [alone]; exact nofun)]
    exact wellFormed.served formerFound alone
  joined {number joinedFetch caller} found joins := by
    rw [finish_callers_getElem?] at found
    obtain ⟨former, formerFound, rfl⟩ := Option.map_eq_some_iff.mp found
    rw [Caller.answerIfJoined_joined] at joins
    obtain ⟨entry, entryFound, answered⟩ := wellFormed.joined formerFound joins
    rw [finish_fetches_getElem? unfinished]
    by_cases same : fetch = joinedFetch
    · subst same
      rw [Caller.answerIfJoined_of_joined joins]
      exact ⟨_, if_pos rfl, fun _ => rfl⟩
    · rw [Caller.answerIfJoined_of_other]
      · exact ⟨entry, by rw [if_neg same, entryFound], answered⟩
      · rw [joins]
        exact fun equal => same (Option.some.inj equal).symm

theorem settle (wellFormed : CallersWellFormed cache) (fetch : Nat) (outcome : Outcome α) :
    CallersWellFormed (cache.settle fetch outcome) := by
  by_cases unfinished : ∃ generation, cache.fetches[fetch]? = some ⟨generation, none⟩
  · obtain ⟨generation, unfinished⟩ := unfinished
    rw [settle_of_open unfinished]
    have finished := wellFormed.finish unfinished outcome
    exact ⟨by rw [publish_callers]; exact finished.served,
      by rw [publish_callers, publish_fetches]; exact finished.joined⟩
  · rw [settle_eq_self (not_exists.mp unfinished)]
    exact wellFormed

theorem cancel (wellFormed : CallersWellFormed cache) (caller : Nat) :
    CallersWellFormed (cache.cancel caller) where
  served {number entry} found alone := by
    rw [cancel_callers_getElem?] at found
    obtain ⟨former, formerFound, rfl⟩ := Option.map_eq_some_iff.mp found
    by_cases same : caller = number
    · rw [if_pos same]
      rfl
    · rw [if_neg same] at alone ⊢
      exact wellFormed.served formerFound alone
  joined {number fetch entry} found joins := by
    rw [cancel_callers_getElem?] at found
    obtain ⟨former, formerFound, rfl⟩ := Option.map_eq_some_iff.mp found
    by_cases same : caller = number
    · rw [if_pos same] at joins ⊢
      obtain ⟨fetched, fetchedFound, _⟩ := wellFormed.joined formerFound joins
      exact ⟨fetched, fetchedFound, fun _ => rfl⟩
    · rw [if_neg same] at joins ⊢
      exact wellFormed.joined formerFound joins

end CallersWellFormed

namespace WellFormed

theorem fresh : WellFormed (Cache.fresh : Cache α) :=
  ⟨.fresh, .fresh⟩

theorem of_move (move : Move before after) (wellFormed : WellFormed before) :
    WellFormed after := by
  obtain ⟨current, callers⟩ := wellFormed
  cases move with
  | serve held count =>
      exact ⟨current.of_same rfl rfl rfl rfl,
        callers.append rfl rfl (fun _ => rfl) (fun _ joins => by cases joins)⟩
  | @join fetch empty pending count =>
      refine ⟨current.of_same rfl rfl rfl rfl,
        callers.append rfl rfl (fun alone => by cases alone) ?_⟩
      intro joined joins
      obtain rfl : fetch = joined := Option.some.inj joins
      obtain ⟨entry, found, _⟩ := current.pending pending
      refine ⟨entry, found, fun known => ?_⟩
      simpa only [outcome?, found, Option.bind_some] using known
  | start empty idle => exact ⟨current.start empty idle, callers.start⟩
  | settle fetch outcome => exact ⟨current.settle fetch outcome, callers.settle fetch outcome⟩
  | invalidate => exact ⟨current.invalidate, callers.served, callers.joined⟩
  | cancel caller => exact ⟨current.of_same rfl rfl rfl rfl, callers.cancel caller⟩

theorem step (wellFormed : WellFormed cache) (step : CacheStep α) :
    WellFormed (cache.step script step) :=
  step_preserves of_move wellFormed step

theorem run (wellFormed : WellFormed cache) (steps : List (CacheStep α)) :
    WellFormed (cache.run script steps) :=
  run_preserves of_move wellFormed steps

theorem reached (script : Script α) (steps : List (CacheStep α)) :
    WellFormed (Cache.fresh.run script steps) :=
  fresh.run steps

end WellFormed

end Cache

end WorkItemQuery
