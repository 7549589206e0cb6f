import Mathlib.Data.List.Nodup
import WorkItemQuery.Proofs.Cache.History

/-!
# Answers

Every caller of a session is answered at most once, and with what it asked for: the value that it
found, or the outcome of the one fetch that it joined, unless it was cancelled while it waited. Main
statement: `answered_once_as_due`.
-/

namespace WorkItemQuery

namespace Cache

variable {α : Type} {script : Script α} {steps earlier : List (CacheStep α)}

/-- What a caller is due. -/
inductive Due (script : Script α) (steps : List (CacheStep α)) (caller : Nat) :
    Outcome α → Prop where
  | found {earlier : List (CacheStep α)} {value : α}
      (arrives : Arrives script steps earlier caller)
      (held : (reached script earlier).value? = some value) : Due script steps caller (.value value)
  | interrupted (interrupted : Interrupted script steps caller) : Due script steps caller .cancelled
  | joined {fetch : Nat} {outcome : Outcome α} (joins : Joins script steps caller fetch)
      (ended : Ended script steps fetch outcome) (patient : ¬ Interrupted script steps caller) :
      Due script steps caller outcome

theorem Interrupted.mono {more : List (CacheStep α)} {caller : Nat}
    (interrupted : Interrupted script steps caller) (grows : steps <+: more) :
    Interrupted script more caller := by
  obtain ⟨earlier, occurs, waits⟩ := interrupted
  exact ⟨earlier, occurs.mono grows, waits⟩

theorem Cancelled.answered {caller : Nat} (cancelled : Cancelled script steps caller) :
    ∃ answer, (reached script steps).answer? caller = some answer := by
  obtain ⟨earlier, occurs, bound⟩ := cancelled
  cases answered : (reached script earlier).answer? caller with
  | some answer => exact ⟨answer, occurs.extends.answer? ((Extends.step _ _).answer? answered)⟩
  | none =>
      have waiting := waits_iff.mp ⟨bound, answered⟩
      refine ⟨.cancelled, occurs.extends.answer? ?_⟩
      simp only [step, answer?, cancel_callers_getElem?, waiting, Option.map_some, if_pos]
      rfl

theorem Interrupted.answer? {caller : Nat} (interrupted : Interrupted script steps caller) :
    (reached script steps).answer? caller = some .cancelled := by
  obtain ⟨earlier, occurs, waits⟩ := interrupted
  have waiting := waits_iff.mp waits
  refine occurs.extends.answer? ?_
  simp only [step, Cache.answer?, cancel_callers_getElem?, waiting, Option.map_some, if_pos]
  rfl

theorem Interrupted.cancelled {caller : Nat} (interrupted : Interrupted script steps caller) :
    Cancelled script steps caller := by
  obtain ⟨earlier, occurs, bound, _⟩ := interrupted
  exact ⟨earlier, occurs, bound⟩

/-- The answer of a caller that joined a fetch comes from that fetch or from a cancellation. -/
theorem answer_cause (script : Script α) (steps : List (CacheStep α)) {caller fetch : Nat}
    {answer : Outcome α} (joined : (reached script steps).joined? caller = some fetch)
    (answered : (reached script steps).answer? caller = some answer) :
    (reached script steps).outcome? fetch = some answer ∨ Interrupted script steps caller := by
  induction steps using List.reverseRecOn with
  | nil => cases answered
  | append_singleton steps last ih =>
      rw [reached_concat] at joined answered ⊢
      have grows := List.prefix_append steps [last]
      by_cases old : caller < (reached script steps).callers.length
      · have before : ((reached script steps).step script last).joined? caller =
            (reached script steps).joined? caller := (Extends.step _ last).joined? old
        rw [before] at joined
        cases answeredBefore : (reached script steps).answer? caller with
        | some former =>
            obtain rfl : former = answer :=
              Option.some.inj (((Extends.step _ last).answer? answeredBefore).symm.trans answered)
            rcases ih joined answeredBefore with ended | interrupted
            · exact .inl ((Extends.step _ last).outcome? ended)
            · exact .inr (interrupted.mono grows)
        | none =>
            have waits : (reached script steps).Waits caller := ⟨old, answeredBefore⟩
            rcases answered_by_step (WellFormed.reached script steps) waits answered with
              ⟨ended, joinedEnded, outcome⟩ | ⟨rfl, _⟩
            · obtain rfl : ended = fetch := Option.some.inj (joinedEnded.symm.trans joined)
              exact .inl outcome
            · exact .inr ⟨steps, occurs_last steps _, waits⟩
      · have new := lt_of_answered answered
        rw [step_callers_length] at new
        cases last with
        | get count =>
            have comes := Nat.le_of_not_lt old
            cases held : (reached script steps).value? with
            | some value =>
                simp only [joined?, newcomer_served held comes new, Option.bind_some] at joined
                cases joined
            | none =>
                have newcomer := newcomer_joins script held comes new
                simp only [joined?, newcomer, Option.bind_some, Option.some.injEq] at joined
                simp only [answer?, newcomer, Option.bind_some] at answered
                exact .inl (joined ▸ answered)
        | invalidate => exact absurd new old
        | cancel cancelled => exact absurd new old
        | resolve resolved outcome => exact absurd new old

theorem answer?_reached_iff (script : Script α) (steps : List (CacheStep α)) (caller : Nat)
    (answer : Outcome α) :
    (reached script steps).answer? caller = some answer ↔ Due script steps caller answer := by
  constructor
  · intro answered
    by_cases interrupted : Interrupted script steps caller
    · obtain rfl := Option.some.inj (answered.symm.trans interrupted.answer?)
      exact .interrupted interrupted
    · obtain ⟨earlier, arrives⟩ := arrives_of_lt script steps (lt_of_answered answered)
      cases held : (reached script earlier).value? with
      | some value =>
          obtain rfl := Option.some.inj (answered.symm.trans (arrives.served held).2)
          exact .found arrives held
      | none =>
          have joins : Joins script steps caller (reached script earlier).joinable :=
            ⟨earlier, arrives, held, rfl⟩
          have ended := (answer_cause script steps joins.joined? answered).resolve_right interrupted
          exact .joined joins ((outcome?_reached_iff script steps _ answer).mp ended) interrupted
  · intro due
    cases due with
    | found arrives held => exact (arrives.served held).2
    | interrupted interrupted => exact interrupted.answer?
    | joined joins ended patient =>
        obtain ⟨answer', answered⟩ := joins.answered_of_ended ended
        have cause := (answer_cause script steps joins.joined? answered).resolve_right patient
        rw [(outcome?_reached_iff script steps _ _).mpr ended] at cause
        rw [answered, cause]

theorem waits_reached_iff (script : Script α) (steps : List (CacheStep α)) (caller : Nat) :
    (reached script steps).Waits caller ↔
      (∃ fetch, Joins script steps caller fetch ∧
        ∀ outcome, ¬ Ended script steps fetch outcome) ∧ ¬ Cancelled script steps caller := by
  constructor
  · intro waits
    obtain ⟨bound, unanswered⟩ := waits
    obtain ⟨earlier, arrives⟩ := arrives_of_lt script steps bound
    have patient : ¬ Cancelled script steps caller := by
      intro cancelled
      obtain ⟨answer, answered⟩ := cancelled.answered
      cases unanswered.symm.trans answered
    cases held : (reached script earlier).value? with
    | some value => cases unanswered.symm.trans (arrives.served held).2
    | none =>
        have joins : Joins script steps caller (reached script earlier).joinable :=
          ⟨earlier, arrives, held, rfl⟩
        refine ⟨⟨_, joins, ?_⟩, patient⟩
        intro outcome ended
        obtain ⟨answer, answered⟩ := joins.answered_of_ended ended
        cases unanswered.symm.trans answered
  · intro depends
    obtain ⟨⟨fetch, joins, unended⟩, patient⟩ := depends
    have joined := joins.joined?
    obtain ⟨earlier, arrives, _⟩ := joins
    refine ⟨arrives.lt_callers_length, ?_⟩
    cases answered : (reached script steps).answer? caller with
    | none => rfl
    | some answer =>
        rcases answer_cause script steps joined answered with ended | interrupted
        · exact absurd ((outcome?_reached_iff script steps fetch answer).mp ended) (unended answer)
        · exact absurd interrupted.cancelled patient

theorem mem_answeredSince {before after : Cache α} {caller : Nat} {answer : Outcome α} :
    (caller, answer) ∈ answeredSince before after ↔
      before.answer? caller = none ∧ after.answer? caller = some answer := by
  unfold answeredSince
  rw [List.mem_filterMap]
  constructor
  · intro among
    obtain ⟨number, _, listed⟩ := among
    split at listed
    · cases listed
    · next unanswered =>
        obtain ⟨outcome, answered, same⟩ := Option.map_eq_some_iff.mp listed
        cases same
        exact ⟨Option.not_isSome_iff_eq_none.mp unanswered, answered⟩
  · intro given
    obtain ⟨unanswered, answered⟩ := given
    refine ⟨caller, List.mem_range.mpr (lt_of_answered answered), ?_⟩
    rw [unanswered, answered]
    rfl

theorem mem_map_fst_answeredSince {before after : Cache α} {caller : Nat}
    (listed : caller ∈ (answeredSince before after).map (·.1)) :
    before.answer? caller = none ∧ ∃ answer, after.answer? caller = some answer := by
  obtain ⟨⟨_, answer⟩, member, rfl⟩ := List.mem_map.mp listed
  obtain ⟨unanswered, answered⟩ := mem_answeredSince.mp member
  exact ⟨unanswered, answer, answered⟩

theorem answeredSince_nodup (before after : Cache α) :
    ((answeredSince before after).map (·.1)).Nodup := by
  unfold answeredSince
  rw [List.map_filterMap]
  refine List.Nodup.filterMap ?_ List.nodup_range
  intro first second caller firstListed secondListed
  have named : ∀ {number : Nat} {listed : Option (Nat × Outcome α)},
      listed = (if (before.answer? number).isSome then none
        else (after.answer? number).map (number, ·)) →
      caller ∈ listed.map (·.1) → number = caller := by
    intro number listed same member
    subst same
    obtain ⟨⟨_, answer⟩, found, rfl⟩ := Option.map_eq_some_iff.mp member
    split at found
    · cases found
    · obtain ⟨_, _, same⟩ := Option.map_eq_some_iff.mp found
      exact congrArg Prod.fst same
  rw [named rfl firstListed, named rfl secondListed]

/-- All answers that a session gives, in the order in which it gives them. -/
def answers (script : Script α) (cache : Cache α) (steps : List (CacheStep α)) :
    List (Nat × Outcome α) :=
  (session script cache steps).result.flatMap CacheReport.answered

theorem answers_cons (cache : Cache α) (step : CacheStep α) (steps : List (CacheStep α)) :
    answers script cache (step :: steps) =
      answeredSince cache (cache.step script step) ++
        answers script (cache.step script step) steps :=
  List.flatMap_cons

theorem mem_answers (script : Script α) (cache : Cache α) (steps : List (CacheStep α))
    (caller : Nat) (answer : Outcome α) :
    (caller, answer) ∈ answers script cache steps ↔
      cache.answer? caller = none ∧ (cache.run script steps).answer? caller = some answer := by
  induction steps generalizing cache with
  | nil =>
      constructor
      · intro member
        cases member
      · intro given
        obtain ⟨unanswered, answered⟩ := given
        cases unanswered.symm.trans answered
  | cons step steps ih =>
      rw [answers_cons, List.mem_append, mem_answeredSince, ih, run_cons]
      constructor
      · intro given
        rcases given with ⟨unanswered, answered⟩ | ⟨unanswered, answered⟩
        · exact ⟨unanswered, (Extends.run _ steps).answer? answered⟩
        · refine ⟨?_, answered⟩
          cases before : cache.answer? caller with
          | none => rfl
          | some former => cases unanswered.symm.trans ((Extends.step _ _).answer? before)
      · intro given
        obtain ⟨unanswered, answered⟩ := given
        cases between : (cache.step script step).answer? caller with
        | none => exact .inr ⟨rfl, answered⟩
        | some former =>
            refine .inl ⟨unanswered, ?_⟩
            rw [← answered]
            exact ((Extends.run _ steps).answer? between).symm

theorem answers_nodup (script : Script α) (cache : Cache α) (steps : List (CacheStep α)) :
    ((answers script cache steps).map (·.1)).Nodup := by
  induction steps generalizing cache with
  | nil => exact List.nodup_nil
  | cons step steps ih =>
      rw [answers_cons, List.map_append, List.nodup_append]
      refine ⟨answeredSince_nodup _ _, ih _, ?_⟩
      -- Whoever is answered in the first step has an answer in every later state.
      intro caller first later second same
      subst same
      obtain ⟨_, answer, answered⟩ := mem_map_fst_answeredSince first
      obtain ⟨⟨_, other⟩, member, rfl⟩ := List.mem_map.mp second
      cases ((mem_answers script _ steps _ other).mp member).1.symm.trans answered

/-- Over a whole session nobody is answered twice; who still waits has joined a fetch that has not
ended and was never cancelled; and everybody else is answered with what they are due, whatever was
invalidated meanwhile. -/
theorem answered_once_as_due (script : Script α) (steps : List (CacheStep α)) :
    ((answers script fresh steps).map (·.1)).Nodup ∧
    (∀ caller,
      caller < (reached script steps).callers.length ∧
          caller ∉ (answers script fresh steps).map (·.1) ↔
        (∃ fetch, Joins script steps caller fetch ∧
          ∀ outcome, ¬ Ended script steps fetch outcome) ∧ ¬ Cancelled script steps caller) ∧
    ∀ caller answer,
      (caller, answer) ∈ answers script fresh steps ↔ Due script steps caller answer := by
  have given : ∀ caller answer, (caller, answer) ∈ answers script fresh steps ↔
      (reached script steps).answer? caller = some answer := by
    intro caller answer
    rw [mem_answers]
    exact and_iff_right rfl
  refine ⟨answers_nodup script fresh steps, ?_, ?_⟩
  · intro caller
    rw [← waits_reached_iff]
    refine and_congr_right fun _ => ?_
    rw [← Option.isNone_iff_eq_none, ← Option.not_isSome, Bool.not_eq_true', ← Bool.not_eq_true,
      Option.isSome_iff_exists]
    refine not_congr ⟨?_, ?_⟩
    · intro listed
      obtain ⟨⟨_, answer⟩, member, rfl⟩ := List.mem_map.mp listed
      exact ⟨answer, (given _ answer).mp member⟩
    · intro known
      obtain ⟨answer, answered⟩ := known
      exact List.mem_map_of_mem ((given caller answer).mpr answered)
  · intro caller answer
    rw [given, answer?_reached_iff]

end Cache

end WorkItemQuery
