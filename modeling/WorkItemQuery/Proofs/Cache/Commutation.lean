import WorkItemQuery.Proofs.Cache.Answers

/-!
# Completions of concurrent fetches

Fetches that are under way together may end in any order. Each of them answers its own callers, and
at most one belongs to the current generation, so at most one publishes anything. Main statement:
`completions_commute`.
-/

namespace WorkItemQuery

variable {α : Type}

theorem Caller.answerIfJoined_comm {first second : Nat} (apart : first ≠ second)
    (caller : Caller α) (outcome other : Outcome α) :
    (caller.answerIfJoined first outcome).answerIfJoined second other =
      (caller.answerIfJoined second other).answerIfJoined first outcome := by
  by_cases joined : caller.joined? = some first
  · have elsewhere : caller.joined? ≠ some second := fun joinedSecond =>
      apart (Option.some.inj (joined.symm.trans joinedSecond))
    have stillElsewhere : (caller.answerIfJoined first outcome).joined? ≠ some second := by
      rwa [answerIfJoined_joined]
    rw [answerIfJoined_of_other elsewhere, answerIfJoined_of_other stillElsewhere]
  · have stillElsewhere : (caller.answerIfJoined second other).joined? ≠ some first := by
      rwa [answerIfJoined_joined]
    rw [answerIfJoined_of_other joined, answerIfJoined_of_other stillElsewhere]

namespace Cache

variable {script : Script α} {cache : Cache α} {block permuted : List (Nat × Outcome α)}

theorem finish_comm {first second : Nat} (apart : first ≠ second) (generation later : Nat)
    (outcome other : Outcome α) :
    (cache.finish first generation outcome).finish second later other =
      (cache.finish second later other).finish first generation outcome := by
  have fetches : (cache.fetches.set first ⟨generation, some outcome⟩).set second
        ⟨later, some other⟩ =
      (cache.fetches.set second ⟨later, some other⟩).set first ⟨generation, some outcome⟩ :=
    List.set_comm _ _ apart
  have callers : (cache.callers.map (·.answerIfJoined first outcome)).map
        (·.answerIfJoined second other) =
      (cache.callers.map (·.answerIfJoined second other)).map
        (·.answerIfJoined first outcome) := by
    rw [List.map_map, List.map_map]
    exact List.map_congr_left fun caller _ => caller.answerIfJoined_comm apart outcome other
  simp only [finish, fetches, callers]

theorem finish_publish (fetch generation now : Nat) (outcome other : Outcome α) :
    (cache.publish now other).finish fetch generation outcome =
      (cache.finish fetch generation outcome).publish now other := by
  rw [finish, publish_fetches, publish_callers]
  exact (publish_withLedger cache _ _ now other).symm

theorem publish_comm {generation later : Nat}
    (single : ¬ (generation = cache.generation ∧ later = cache.generation))
    (outcome other : Outcome α) :
    (cache.publish generation outcome).publish later other =
      (cache.publish later other).publish generation outcome := by
  by_cases now : generation = cache.generation
  · have stale : later ≠ cache.generation := fun alsoNow => single ⟨now, alsoNow⟩
    have stillStale : later ≠ (cache.publish generation outcome).generation := by
      rwa [publish_generation]
    rw [publish_of_stale _ stillStale, publish_of_stale _ stale]
  · have stillStale : generation ≠ (cache.publish later other).generation := by
      rwa [publish_generation]
    rw [publish_of_stale _ now, publish_of_stale _ stillStale]

theorem settle_fetches_getElem?_of_ne {fetch number : Nat} (apart : fetch ≠ number)
    (outcome : Outcome α) :
    (cache.settle fetch outcome).fetches[number]? = cache.fetches[number]? := by
  by_cases unfinished : cache.Unfinished fetch
  · obtain ⟨generation, found⟩ := unfinished
    rw [settle_of_open found, publish_fetches, finish_fetches_getElem? found, if_neg apart]
  · rw [settle_eq_self (not_exists.mp unfinished)]

theorem settle_settle_of_closed {closed fetch : Nat} (finished : ¬ cache.Unfinished closed)
    (apart : fetch ≠ closed) (outcome other : Outcome α) :
    (cache.settle fetch outcome).settle closed other =
      (cache.settle closed other).settle fetch outcome := by
  have stillFinished : ¬ (cache.settle fetch outcome).Unfinished closed := by
    rwa [Unfinished, settle_fetches_getElem?_of_ne apart]
  rw [settle_eq_self (not_exists.mp stillFinished), settle_eq_self (not_exists.mp finished)]

theorem settle_comm (wellFormed : WellFormed cache) {first second : Nat} (apart : first ≠ second)
    (outcome other : Outcome α) :
    (cache.settle first outcome).settle second other =
      (cache.settle second other).settle first outcome := by
  by_cases firstOpen : cache.Unfinished first
  · by_cases secondOpen : cache.Unfinished second
    · obtain ⟨generation, found⟩ := firstOpen
      obtain ⟨later, laterFound⟩ := secondOpen
      have stillFound : (cache.settle second other).fetches[first]? = some ⟨generation, none⟩ :=
        (settle_fetches_getElem?_of_ne apart.symm other).trans found
      have stillLaterFound : (cache.settle first outcome).fetches[second]? = some ⟨later, none⟩ :=
        (settle_fetches_getElem?_of_ne apart outcome).trans laterFound
      -- Of the current generation only the last fetch of all can be under way.
      have single : ¬ (generation = cache.generation ∧ later = cache.generation) := by
        rintro ⟨rfl, rfl⟩
        have firstLast := (wellFormed.current.pending_of_open found).1
        have secondLast := (wellFormed.current.pending_of_open laterFound).1
        omega
      have stillSingle : ¬ (generation =
            ((cache.finish first generation outcome).finish second later other).generation ∧
          later = ((cache.finish first generation outcome).finish second later other).generation) :=
        single
      rw [settle_of_open stillLaterFound, settle_of_open stillFound, settle_of_open found,
        settle_of_open laterFound, finish_publish, finish_publish, finish_comm apart.symm,
        publish_comm stillSingle]
    · exact settle_settle_of_closed secondOpen apart outcome other
  · exact (settle_settle_of_closed firstOpen apart.symm other outcome).symm

/-- The steps in which fetches end, one after the other. -/
def completions (block : List (Nat × Outcome α)) : List (CacheStep α) :=
  block.map fun ended => .resolve ended.1 ended.2

theorem run_completions_of_perm (wellFormed : WellFormed cache) (reordered : block.Perm permuted)
    (apart : (block.map (·.1)).Nodup) :
    cache.run script (completions block) = cache.run script (completions permuted) := by
  induction reordered generalizing cache with
  | nil => rfl
  | cons ended _ ih =>
      exact ih (wellFormed.step (.resolve ended.1 ended.2)) (List.nodup_cons.mp apart).2
  | swap first second rest =>
      have different : second.1 ≠ first.1 := by
        intro same
        exact (List.nodup_cons.mp apart).1 (List.mem_cons.mpr (.inl same))
      exact congrArg (Cache.run script · (completions rest))
        (settle_comm wellFormed different second.2 first.2)
  | trans reordered _ ih later =>
      have stillApart := (reordered.map (·.1)).nodup_iff.mp apart
      exact (ih wellFormed apart).trans (later wellFormed stillApart)

/-- Fetches that end one after the other leave the same cache behind in whatever order they end:
value, pending fetch, fetches, and what everybody is answered. Their ends give the same answers, in
another order, and the session goes on in the same way. -/
theorem completions_commute (script : Script α) (earlier : List (CacheStep α))
    (apart : (block.map (·.1)).Nodup) (reordered : block.Perm permuted) :
    let before := reached script earlier
    let after := reached script (earlier ++ completions block)
    let other := reached script (earlier ++ completions permuted)
    after = other ∧
      (answers script before (completions block)).Perm
        (answers script before (completions permuted)) ∧
      ∀ later, session script after later = session script other later := by
  intro before after other
  have same : after = other := by
    have blockRun : after = before.run script (completions block) := reached_append earlier _
    have permutedRun : other = before.run script (completions permuted) := reached_append earlier _
    rw [blockRun, permutedRun]
    exact run_completions_of_perm (WellFormed.reached script earlier) reordered apart
  refine ⟨same, ?_, fun later => by rw [same]⟩
  refine (List.perm_ext_iff_of_nodup (answers_nodup script before _).of_map
    (answers_nodup script before _).of_map).mpr fun answer => ?_
  have known : after.answer? answer.1 = other.answer? answer.1 := by rw [same]
  rw [mem_answers, mem_answers, ← reached_append, ← reached_append]
  exact and_congr_right fun _ => by rw [known]

theorem stale_and_current_fetch_end_in_either_order :
    let script : Script Nat := fun _ => none
    let earlier : List (CacheStep Nat) := [.get 1, .invalidate, .get 2]
    let block : List (Nat × Outcome Nat) := [(0, .cancelled), (1, .value 7)]
    let permuted : List (Nat × Outcome Nat) := [(1, .value 7), (0, .cancelled)]
    let after := reached script (earlier ++ completions block)
    (block.map (·.1)).Nodup ∧ block.Perm permuted ∧ (reached script earlier).Unfinished 0 ∧
      (reached script earlier).Unfinished 1 ∧
      after = reached script (earlier ++ completions permuted) ∧
      after.value? = some 7 ∧ after.answer? 0 = some .cancelled ∧
      after.answer? 2 = some (.value 7) := by
  intro script earlier block permuted after
  have apart : (block.map (·.1)).Nodup := by decide
  have reordered : block.Perm permuted := .swap _ _ []
  exact ⟨apart, reordered, ⟨0, rfl⟩, ⟨1, rfl⟩,
    (completions_commute script earlier apart reordered).1, rfl, rfl, rfl⟩

end Cache

end WorkItemQuery
