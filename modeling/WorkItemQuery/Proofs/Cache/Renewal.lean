import WorkItemQuery.Proofs.Cache.Answers

/-!
# Renewal

An invalidated cache is as good as a fresh one. What it still carries of the time before, fetches of
older generations and their callers, stands in front of a ledger that develops as that of a fresh
cache does. Main statement: `invalidated_as_good_as_fresh`.
-/

namespace WorkItemQuery

variable {α : Type}

/-- A script for the fetches from a number on. -/
def Script.past (fetches : Nat) (script : Script α) : Script α :=
  fun fetch => script (fetches + fetch)

/-- What a step is to those who count fetches and callers from given numbers on; `none` if it is
about a fetch or a caller before them. -/
def CacheStep.past? (fetches callers : Nat) : CacheStep α → Option (CacheStep α)
  | .get count => some (.get count)
  | .invalidate => some .invalidate
  | .cancel caller => if caller < callers then none else some (.cancel (caller - callers))
  | .resolve fetch outcome =>
      if fetch < fetches then none else some (.resolve (fetch - fetches) outcome)

/-- What a ledger holds of the generations before a given one. -/
structure Leftovers (α : Type) where
  generation : Nat
  fetches : List (Fetch α)
  callers : List (Caller α)
  stale : ∀ fetch ∈ fetches, fetch.generation < generation

theorem modify_append_of_lt {front back : List α} {place : Nat} (inFront : place < front.length)
    (change : α → α) :
    (front ++ back).modify place change = front.modify place change ++ back := by
  induction front generalizing place with
  | nil => cases inFront
  | cons first front ih =>
      cases place with
      | zero => rfl
      | succ place =>
          simp only [List.cons_append, List.modify_succ_cons, ih (Nat.lt_of_succ_lt_succ inFront)]

theorem modify_append_add (front back : List α) (place : Nat) (change : α → α) :
    (front ++ back).modify (front.length + place) change = front ++ back.modify place change := by
  induction front with
  | nil => rw [List.length_nil, Nat.zero_add, List.nil_append, List.nil_append]
  | cons first front ih =>
      simp only [List.length_cons, Nat.add_right_comm _ 1 place, List.cons_append,
        List.modify_succ_cons, ih]

namespace Leftovers

variable {leftovers : Leftovers α} {cache : Cache α} {script : Script α}

def laterFetch (leftovers : Leftovers α) (fetch : Fetch α) : Fetch α :=
  { fetch with generation := leftovers.generation + fetch.generation }

def laterCaller (leftovers : Leftovers α) (caller : Caller α) : Caller α :=
  { caller with joined? := caller.joined?.map (leftovers.fetches.length + ·) }

/-- A cache behind leftovers. Its own fetches, callers and generations are counted on from there. -/
def followedBy (leftovers : Leftovers α) (cache : Cache α) : Cache α where
  value? := cache.value?
  pending? := cache.pending?.map (leftovers.fetches.length + ·)
  generation := leftovers.generation + cache.generation
  fetches := leftovers.fetches ++ cache.fetches.map leftovers.laterFetch
  callers := leftovers.callers ++ cache.callers.map leftovers.laterCaller

/-- The leftovers of an invalidation. -/
def ofInvalidated (cache : Cache α) (wellFormed : cache.WellFormed) : Leftovers α where
  generation := cache.generation + 1
  fetches := cache.fetches
  callers := cache.callers
  stale fetch member := by
    obtain ⟨number, found⟩ := List.getElem?_of_mem member
    exact Nat.lt_succ_of_le (wellFormed.current.bounded found)

theorem ofInvalidated_followedBy_fresh (wellFormed : cache.WellFormed) :
    (ofInvalidated cache wellFormed).followedBy .fresh = cache.invalidate := by
  simp only [followedBy, ofInvalidated, Cache.fresh, Cache.invalidate, Option.map_none,
    List.map_nil, List.append_nil, Nat.add_zero]

/-- Leftover callers are answered by the end of a fetch that they joined. -/
def answering (leftovers : Leftovers α) (fetch : Nat) (outcome : Outcome α) : Leftovers α :=
  { leftovers with callers := leftovers.callers.map (·.answerIfJoined fetch outcome) }

/-- A leftover fetch ends. -/
def ending (leftovers : Leftovers α) {fetch generation : Nat}
    (found : leftovers.fetches[fetch]? = some ⟨generation, none⟩) (outcome : Outcome α) :
    Leftovers α where
  generation := leftovers.generation
  fetches := leftovers.fetches.set fetch ⟨generation, some outcome⟩
  callers := leftovers.callers.map (·.answerIfJoined fetch outcome)
  stale entry member := by
    rcases List.mem_or_eq_of_mem_set member with unchanged | rfl
    · exact leftovers.stale entry unchanged
    · exact leftovers.stale ⟨generation, none⟩ (List.mem_of_getElem? found)

def cancelling (leftovers : Leftovers α) (caller : Nat) : Leftovers α :=
  { leftovers with callers := leftovers.callers.modify caller (·.answer .cancelled) }

theorem followedBy_fetches_getElem?_add (fetch : Nat) :
    (leftovers.followedBy cache).fetches[leftovers.fetches.length + fetch]? =
      cache.fetches[fetch]?.map leftovers.laterFetch := by
  rw [followedBy, List.getElem?_append_right (Nat.le_add_right _ _), Nat.add_sub_cancel_left,
    List.getElem?_map]

theorem followedBy_callers_getElem?_add (caller : Nat) :
    (leftovers.followedBy cache).callers[leftovers.callers.length + caller]? =
      cache.callers[caller]?.map leftovers.laterCaller := by
  rw [followedBy, List.getElem?_append_right (Nat.le_add_right _ _), Nat.add_sub_cancel_left,
    List.getElem?_map]

theorem followedBy_fetches_length :
    (leftovers.followedBy cache).fetches.length =
      leftovers.fetches.length + cache.fetches.length := by
  rw [followedBy, List.length_append, List.length_map]

theorem followedBy_callers_length :
    (leftovers.followedBy cache).callers.length =
      leftovers.callers.length + cache.callers.length := by
  rw [followedBy, List.length_append, List.length_map]

theorem followedBy_outcome? (fetch : Nat) :
    (leftovers.followedBy cache).outcome? (leftovers.fetches.length + fetch) =
      cache.outcome? fetch := by
  rw [Cache.outcome?, Cache.outcome?, followedBy_fetches_getElem?_add, Option.bind_map]
  rfl

theorem followedBy_answer? (caller : Nat) :
    (leftovers.followedBy cache).answer? (leftovers.callers.length + caller) =
      cache.answer? caller := by
  rw [Cache.answer?, Cache.answer?, followedBy_callers_getElem?_add, Option.bind_map]
  rfl

theorem followedBy_serve (value : α) (count : Nat) :
    (leftovers.followedBy cache).serve value count =
      leftovers.followedBy (cache.serve value count) := by
  simp only [followedBy, Cache.serve, List.map_append, List.map_replicate, List.append_assoc]
  rfl

theorem followedBy_join (fetch count : Nat) :
    (leftovers.followedBy cache).join (leftovers.fetches.length + fetch) count =
      leftovers.followedBy (cache.join fetch count) := by
  rw [Cache.join, followedBy_outcome?]
  simp only [followedBy, Cache.join, List.map_append, List.map_replicate, List.append_assoc]
  rfl

theorem followedBy_start :
    (leftovers.followedBy cache).start = leftovers.followedBy cache.start := by
  rw [Cache.start, followedBy_fetches_length]
  simp only [followedBy, Cache.start, List.map_append, List.append_assoc]
  rfl

theorem followedBy_publish (generation : Nat) (outcome : Outcome α) :
    (leftovers.followedBy cache).publish (leftovers.generation + generation) outcome =
      leftovers.followedBy (cache.publish generation outcome) := by
  by_cases now : generation = cache.generation
  · have alsoNow : leftovers.generation + generation = (leftovers.followedBy cache).generation :=
      congrArg (leftovers.generation + ·) now
    cases outcome with
    | value value =>
        rw [Cache.publish_value _ alsoNow, Cache.publish_value _ now]
        rfl
    | failed failure =>
        rw [Cache.publish_failed _ alsoNow, Cache.publish_failed _ now]
        rfl
    | cancelled => rw [Cache.publish_cancelled, Cache.publish_cancelled]
  · have alsoStale :
        leftovers.generation + generation ≠ (leftovers.followedBy cache).generation :=
      fun same => now (Nat.add_left_cancel same)
    rw [Cache.publish_of_stale (leftovers.followedBy cache) alsoStale,
      Cache.publish_of_stale cache now]

theorem laterCaller_answerIfJoined (caller : Caller α) (fetch : Nat) (outcome : Outcome α) :
    (leftovers.laterCaller caller).answerIfJoined (leftovers.fetches.length + fetch) outcome =
      leftovers.laterCaller (caller.answerIfJoined fetch outcome) := by
  by_cases joined : caller.joined? = some fetch
  · have alsoJoined :
        (leftovers.laterCaller caller).joined? = some (leftovers.fetches.length + fetch) :=
      congrArg (Option.map (leftovers.fetches.length + ·)) joined
    rw [Caller.answerIfJoined_of_joined joined, Caller.answerIfJoined_of_joined alsoJoined]
    rfl
  · have alsoOther :
        (leftovers.laterCaller caller).joined? ≠ some (leftovers.fetches.length + fetch) := by
      intro alsoJoined
      obtain ⟨other, joins, same⟩ := Option.map_eq_some_iff.mp alsoJoined
      exact joined (Nat.add_left_cancel same ▸ joins)
    rw [Caller.answerIfJoined_of_other joined, Caller.answerIfJoined_of_other alsoOther]

/-- Later callers have joined none of the leftover fetches. -/
theorem laterCaller_answerIfJoined_of_lt {fetch : Nat} (left : fetch < leftovers.fetches.length)
    (caller : Caller α) (outcome : Outcome α) :
    (leftovers.laterCaller caller).answerIfJoined fetch outcome = leftovers.laterCaller caller := by
  apply Caller.answerIfJoined_of_other
  intro joined
  obtain ⟨other, _, same⟩ := Option.map_eq_some_iff.mp joined
  omega

theorem followedBy_finish (fetch generation : Nat) (outcome : Outcome α) :
    (leftovers.followedBy cache).finish (leftovers.fetches.length + fetch)
        (leftovers.generation + generation) outcome =
      (leftovers.answering (leftovers.fetches.length + fetch) outcome).followedBy
        (cache.finish fetch generation outcome) := by
  simp only [followedBy, Cache.finish, answering, List.map_append, List.map_map, List.map_set,
    List.set_append_right _ _ (Nat.le_add_right _ _), Nat.add_sub_cancel_left]
  congr 2
  exact List.map_congr_left fun caller _ => laterCaller_answerIfJoined caller fetch outcome

theorem followedBy_finish_of_found {fetch generation : Nat}
    (found : leftovers.fetches[fetch]? = some ⟨generation, none⟩) (outcome : Outcome α) :
    (leftovers.followedBy cache).finish fetch generation outcome =
      (leftovers.ending found outcome).followedBy cache := by
  have left : fetch < leftovers.fetches.length := (List.getElem?_eq_some_iff.mp found).1
  have sameLength : (leftovers.ending found outcome).fetches.length = leftovers.fetches.length :=
    List.length_set
  have sameCaller : (leftovers.ending found outcome).laterCaller = leftovers.laterCaller := by
    funext caller
    rw [laterCaller, laterCaller, sameLength]
  simp only [followedBy, sameLength, sameCaller, Cache.finish, List.map_append, List.map_map,
    List.set_append_left _ _ left]
  congr 2
  exact List.map_congr_left fun caller _ => laterCaller_answerIfJoined_of_lt left caller outcome

theorem followedBy_cancel (caller : Nat) :
    (leftovers.followedBy cache).cancel (leftovers.callers.length + caller) =
      leftovers.followedBy (cache.cancel caller) := by
  have same : (cache.callers.map leftovers.laterCaller).modify caller (·.answer .cancelled) =
      (cache.callers.modify caller (·.answer .cancelled)).map leftovers.laterCaller := by
    apply List.ext_getElem?
    intro number
    rw [List.getElem?_modify, List.getElem?_map, List.getElem?_map, List.getElem?_modify]
    cases cache.callers[number]? with
    | none => rfl
    | some entry => by_cases here : caller = number <;> simp only [here, ↓reduceIte] <;> rfl
  simp only [followedBy, Cache.cancel, modify_append_add, same]

theorem followedBy_cancel_of_lt {caller : Nat} (left : caller < leftovers.callers.length) :
    (leftovers.followedBy cache).cancel caller =
      (leftovers.cancelling caller).followedBy cache := by
  simp only [followedBy, Cache.cancel, modify_append_of_lt left]
  rfl

end Leftovers

namespace Cache

variable {script : Script α} {old new : Cache α} {fetches callers : Nat}

/-- The old cache goes on as the new one does, behind so many fetches and callers. -/
def Resumes (fetches callers : Nat) (old new : Cache α) : Prop :=
  ∃ leftovers : Leftovers α, leftovers.fetches.length = fetches ∧
    leftovers.callers.length = callers ∧ leftovers.followedBy new = old

namespace Resumes

theorem ofInvalidated (wellFormed : old.WellFormed) :
    Resumes old.fetches.length old.callers.length old.invalidate fresh :=
  ⟨.ofInvalidated old wellFormed, rfl, rfl, Leftovers.ofInvalidated_followedBy_fresh wellFormed⟩

theorem hasValue (resumes : Resumes fetches callers old new) : old.hasValue = new.hasValue := by
  obtain ⟨leftovers, _, _, rfl⟩ := resumes
  rfl

theorem value? (resumes : Resumes fetches callers old new) : old.value? = new.value? := by
  obtain ⟨leftovers, _, _, rfl⟩ := resumes
  rfl

theorem fetches_length (resumes : Resumes fetches callers old new) :
    old.fetches.length = fetches + new.fetches.length := by
  obtain ⟨leftovers, rfl, _, rfl⟩ := resumes
  exact Leftovers.followedBy_fetches_length

theorem callers_length (resumes : Resumes fetches callers old new) :
    old.callers.length = callers + new.callers.length := by
  obtain ⟨leftovers, _, rfl, rfl⟩ := resumes
  exact Leftovers.followedBy_callers_length

theorem answer? (resumes : Resumes fetches callers old new) (caller : Nat) :
    old.answer? (callers + caller) = new.answer? caller := by
  obtain ⟨leftovers, _, rfl, rfl⟩ := resumes
  exact Leftovers.followedBy_answer? caller

theorem settle_later (resumes : Resumes fetches callers old new) (fetch : Nat)
    (outcome : Outcome α) :
    Resumes fetches callers (old.settle (fetches + fetch) outcome) (new.settle fetch outcome) := by
  obtain ⟨leftovers, rfl, rfl, rfl⟩ := resumes
  by_cases unfinished : new.Unfinished fetch
  · obtain ⟨generation, found⟩ := unfinished
    have alsoFound : (leftovers.followedBy new).fetches[leftovers.fetches.length + fetch]? =
        some ⟨leftovers.generation + generation, none⟩ := by
      rw [Leftovers.followedBy_fetches_getElem?_add, found]
      rfl
    refine ⟨leftovers.answering (leftovers.fetches.length + fetch) outcome, rfl,
      List.length_map _, ?_⟩
    rw [settle_of_open found, settle_of_open alsoFound, Leftovers.followedBy_finish]
    exact (Leftovers.followedBy_publish generation outcome).symm
  · have alsoClosed :
        ¬ (leftovers.followedBy new).Unfinished (leftovers.fetches.length + fetch) := by
      intro alsoOpen
      obtain ⟨bound, silent⟩ := unfinished_iff.mp alsoOpen
      rw [Leftovers.followedBy_fetches_length] at bound
      rw [Leftovers.followedBy_outcome?] at silent
      exact unfinished (unfinished_iff.mpr ⟨Nat.lt_of_add_lt_add_left bound, silent⟩)
    rw [settle_eq_self (not_exists.mp unfinished), settle_eq_self (not_exists.mp alsoClosed)]
    exact ⟨leftovers, rfl, rfl, rfl⟩

/-- The end of a fetch that is left over is none of the new cache's concern. -/
theorem settle_left (resumes : Resumes fetches callers old new) {fetch : Nat}
    (left : fetch < fetches) (outcome : Outcome α) :
    Resumes fetches callers (old.settle fetch outcome) new := by
  obtain ⟨leftovers, rfl, rfl, rfl⟩ := resumes
  have same : (leftovers.followedBy new).fetches[fetch]? = leftovers.fetches[fetch]? :=
    List.getElem?_append_left left
  by_cases unfinished : (leftovers.followedBy new).Unfinished fetch
  · obtain ⟨generation, found⟩ := unfinished
    have alsoFound : leftovers.fetches[fetch]? = some ⟨generation, none⟩ := same ▸ found
    refine ⟨leftovers.ending alsoFound outcome, List.length_set, List.length_map _, ?_⟩
    have old := leftovers.stale _ (List.mem_of_getElem? alsoFound)
    have stale : generation ≠ ((leftovers.ending alsoFound outcome).followedBy new).generation :=
      Nat.ne_of_lt (Nat.lt_of_lt_of_le old (Nat.le_add_right _ _))
    rw [settle_of_open found, Leftovers.followedBy_finish_of_found alsoFound,
      publish_of_stale ((leftovers.ending alsoFound outcome).followedBy new) stale]
  · rw [settle_eq_self (not_exists.mp unfinished)]
    exact ⟨leftovers, rfl, rfl, rfl⟩

theorem launch (resumes : Resumes fetches callers old new) (count : Nat) :
    Resumes fetches callers (old.launch script count) (new.launch (script.past fetches) count) := by
  have length := resumes.fetches_length
  have started : Resumes fetches callers (old.start.join old.fetches.length count)
      (new.start.join new.fetches.length count) := by
    rw [length]
    obtain ⟨leftovers, rfl, rfl, rfl⟩ := resumes
    refine ⟨leftovers, rfl, rfl, ?_⟩
    rw [Leftovers.followedBy_start, Leftovers.followedBy_join]
  cases scripted : script (fetches + new.fetches.length) with
  | none =>
      rw [launch_of_silent (by rw [length, scripted]), launch_of_silent (by exact scripted)]
      exact started
  | some outcome =>
      rw [launch_of_scripted (by rw [length, scripted]), launch_of_scripted (by exact scripted)]
      exact length ▸ started.settle_later new.fetches.length outcome

theorem get (resumes : Resumes fetches callers old new) (count : Nat) :
    Resumes fetches callers (old.get script count) (new.get (script.past fetches) count) := by
  have launched : Resumes fetches callers (old.launch script count)
      (new.launch (script.past fetches) count) := resumes.launch count
  have unchanged := resumes
  obtain ⟨leftovers, rfl, rfl, rfl⟩ := resumes
  have sameValue : (leftovers.followedBy new).value? = new.value? := rfl
  have laterPending : (leftovers.followedBy new).pending? =
      new.pending?.map (leftovers.fetches.length + ·) := rfl
  cases held : new.value? with
  | some value =>
      rw [get_of_value (sameValue.trans held), get_of_value held, Leftovers.followedBy_serve]
      exact ⟨leftovers, rfl, rfl, rfl⟩
  | none =>
      have empty := sameValue.trans held
      cases pending : new.pending? with
      | some fetch =>
          rw [pending] at laterPending
          rw [get_of_pending empty laterPending, get_of_pending held pending,
            Leftovers.followedBy_join]
          exact ⟨leftovers, rfl, rfl, rfl⟩
      | none =>
          rw [pending] at laterPending
          rw [get_of_idle empty laterPending, get_of_idle held pending]
          by_cases nobody : count = 0
          · rwa [if_pos nobody, if_pos nobody]
          · rwa [if_neg nobody, if_neg nobody]

theorem step (resumes : Resumes fetches callers old new) (step : CacheStep α) :
    Resumes fetches callers (old.step script step)
      (new.run (script.past fetches) (step.past? fetches callers).toList) := by
  cases step with
  | get count => exact resumes.get count
  | invalidate =>
      obtain ⟨leftovers, rfl, rfl, rfl⟩ := resumes
      exact ⟨leftovers, rfl, rfl, rfl⟩
  | cancel caller =>
      simp only [CacheStep.past?, Cache.step]
      split
      · next left =>
          obtain ⟨leftovers, rfl, rfl, rfl⟩ := resumes
          exact ⟨leftovers.cancelling caller, rfl, List.length_modify _ _ _,
            (Leftovers.followedBy_cancel_of_lt left).symm⟩
      · next later =>
          obtain ⟨number, rfl⟩ := Nat.exists_eq_add_of_le (Nat.le_of_not_lt later)
          rw [Nat.add_sub_cancel_left]
          obtain ⟨leftovers, rfl, rfl, rfl⟩ := resumes
          exact ⟨leftovers, rfl, rfl, (Leftovers.followedBy_cancel number).symm⟩
  | resolve fetch outcome =>
      simp only [CacheStep.past?, Cache.step]
      split
      · next left => exact resumes.settle_left left outcome
      · next later =>
          obtain ⟨number, rfl⟩ := Nat.exists_eq_add_of_le (Nat.le_of_not_lt later)
          rw [Nat.add_sub_cancel_left]
          exact resumes.settle_later number outcome

theorem run (resumes : Resumes fetches callers old new) (steps : List (CacheStep α)) :
    Resumes fetches callers (old.run script steps)
      (new.run (script.past fetches) (steps.filterMap (·.past? fetches callers))) := by
  induction steps generalizing old new with
  | nil => exact resumes
  | cons step steps ih =>
      have split : (step :: steps).filterMap (·.past? fetches callers) =
          (step.past? fetches callers).toList ++ steps.filterMap (·.past? fetches callers) := by
        cases known : step.past? fetches callers with
        | none => exact List.filterMap_cons_none known
        | some past => exact List.filterMap_cons_some known
      rw [run_cons, split, run_append]
      exact ih (resumes.step step)

end Resumes

/-- Whatever a session has come to, from an invalidation on it goes on like a session with a fresh
cache that knows nothing of the fetches and callers so far: at any later time both have the same
value or none, have started as many fetches and seen as many callers, and the next step gives the
same answers to the new callers. -/
theorem invalidated_as_good_as_fresh (script : Script α) (earlier continued : List (CacheStep α)) :
    let fetches := (reached script earlier).fetches.length
    let callers := (reached script earlier).callers.length
    let renewed := fun steps => reached script (earlier ++ .invalidate :: steps)
    let past := fun steps =>
      reached (script.past fetches) (steps.filterMap (·.past? fetches callers))
    (renewed continued).hasValue = (past continued).hasValue ∧
      (renewed continued).value? = (past continued).value? ∧
      (renewed continued).fetches.length = fetches + (past continued).fetches.length ∧
      (renewed continued).callers.length = callers + (past continued).callers.length ∧
      ∀ step caller answer,
        (callers + caller, answer) ∈
            answeredSince (renewed continued) (renewed (continued ++ [step])) ↔
          (caller, answer) ∈ answeredSince (past continued) (past (continued ++ [step])) := by
  intro fetches callers renewed past
  have resumes : ∀ steps, Resumes fetches callers (renewed steps) (past steps) := by
    intro steps
    have invalidated : Resumes fetches callers (reached script earlier).invalidate fresh :=
      .ofInvalidated (WellFormed.reached script earlier)
    have same : renewed steps = (reached script earlier).invalidate.run script steps :=
      reached_append earlier (.invalidate :: steps)
    rw [same]
    exact invalidated.run steps
  have agree := resumes continued
  refine ⟨agree.hasValue, agree.value?, agree.fetches_length, agree.callers_length, ?_⟩
  intro step caller answer
  rw [mem_answeredSince, mem_answeredSince, agree.answer?, (resumes (continued ++ [step])).answer?]

end Cache

end WorkItemQuery
