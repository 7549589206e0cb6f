import Mathlib.Data.List.Induction
import WorkItemQuery.Proofs.Cache.Steps

/-!
# The history of a session

What the steps of a session say about its fetches and its callers: when a fetch has ended and how,
when a caller came, which fetch it joined, and whether it was cancelled. The ledger of the state
that the steps lead to agrees with all of it.
-/

namespace WorkItemQuery

namespace Cache

variable {α : Type} {script : Script α} {steps earlier more : List (CacheStep α)}

abbrev reached (script : Script α) (steps : List (CacheStep α)) : Cache α :=
  fresh.run script steps

/-- A step of a session, by the steps before it. -/
def Occurs (steps earlier : List (CacheStep α)) (step : CacheStep α) : Prop :=
  earlier ++ [step] <+: steps

/-- A fetch has ended: in the step that starts it if the script says how, or else in the first step
that resolves it once it is started. -/
inductive Ended (script : Script α) (steps : List (CacheStep α)) (fetch : Nat)
    (outcome : Outcome α) : Prop where
  | atOnce (started : fetch < (reached script steps).fetches.length)
      (scripted : script fetch = some outcome)
  | resolved (silent : script fetch = none) (earlier : List (CacheStep α))
      (resolves : Occurs steps earlier (.resolve fetch outcome))
      (started : fetch < (reached script earlier).fetches.length)
      (first : ∀ before other, Occurs earlier before (.resolve fetch other) →
        (reached script before).fetches.length ≤ fetch)

def Arrives (script : Script α) (steps earlier : List (CacheStep α)) (caller : Nat) : Prop :=
  ∃ count, Occurs steps earlier (.get count) ∧
    (reached script earlier).callers.length ≤ caller ∧
    caller < (reached script earlier).callers.length + count

/-- A caller that finds no value joins the pending fetch, or else the one that it makes start. -/
def Joins (script : Script α) (steps : List (CacheStep α)) (caller fetch : Nat) : Prop :=
  ∃ earlier, Arrives script steps earlier caller ∧ (reached script earlier).value? = none ∧
    fetch = (reached script earlier).joinable

def Cancelled (script : Script α) (steps : List (CacheStep α)) (caller : Nat) : Prop :=
  ∃ earlier, Occurs steps earlier (.cancel caller) ∧
    caller < (reached script earlier).callers.length

def Interrupted (script : Script α) (steps : List (CacheStep α)) (caller : Nat) : Prop :=
  ∃ earlier, Occurs steps earlier (.cancel caller) ∧ (reached script earlier).Waits caller

theorem occurs_last (steps : List (CacheStep α)) (last : CacheStep α) :
    Occurs (steps ++ [last]) steps last :=
  List.prefix_refl _

theorem Occurs.mono {step : CacheStep α} (occurs : Occurs steps earlier step)
    (grows : steps <+: more) : Occurs more earlier step :=
  occurs.trans grows

theorem reached_append (steps later : List (CacheStep α)) :
    reached script (steps ++ later) = (reached script steps).run script later :=
  run_append steps later

theorem reached_concat (steps : List (CacheStep α)) (last : CacheStep α) :
    reached script (steps ++ [last]) = (reached script steps).step script last :=
  run_append steps [last]

theorem extends_of_prefix (grows : steps <+: more) :
    Extends (reached script steps) (reached script more) := by
  obtain ⟨later, rfl⟩ := grows
  exact reached_append steps later ▸ Extends.run (reached script steps) later

theorem Occurs.extends {step : CacheStep α} (occurs : Occurs steps earlier step) :
    Extends ((reached script earlier).step script step) (reached script steps) := by
  rw [← reached_concat]
  exact extends_of_prefix occurs

theorem Ended.mono {fetch : Nat} {outcome : Outcome α} (ended : Ended script steps fetch outcome)
    (grows : steps <+: more) : Ended script more fetch outcome := by
  cases ended with
  | atOnce started scripted =>
      have extended : Extends (reached script steps) (reached script more) :=
        extends_of_prefix grows
      exact .atOnce (Nat.lt_of_lt_of_le started extended.fetches_length_le) scripted
  | resolved silent earlier resolves started first =>
      exact .resolved silent earlier (resolves.mono grows) started first

theorem outcome?_of_scripted (script : Script α) (steps : List (CacheStep α)) {fetch : Nat}
    {outcome : Outcome α} (scripted : script fetch = some outcome)
    (started : fetch < (reached script steps).fetches.length) :
    (reached script steps).outcome? fetch = some outcome := by
  induction steps using List.reverseRecOn with
  | nil => exact absurd started (Nat.not_lt_zero fetch)
  | append_singleton steps last ih =>
      rw [reached_concat] at started ⊢
      by_cases earlier : fetch < (reached script steps).fetches.length
      · exact (Extends.step _ last).outcome? (ih earlier)
      · by_cases starts : (reached script steps).Starts last
        · rw [step_fetches_length_of_starts starts] at started
          obtain rfl : fetch = (reached script steps).fetches.length := by omega
          obtain ⟨count, launched⟩ := step_of_starts script starts
          rw [launched, outcome?_launch, scripted]
        · rw [step_fetches_length_of_not_starts starts] at started
          exact absurd started earlier

theorem ended_of_outcome? (script : Script α) (steps : List (CacheStep α)) {fetch : Nat}
    {outcome : Outcome α} (known : (reached script steps).outcome? fetch = some outcome) :
    Ended script steps fetch outcome := by
  induction steps using List.reverseRecOn with
  | nil => cases known
  | append_singleton steps last ih =>
      rw [reached_concat] at known
      rcases ended_by_step known with before | ⟨starts, rfl, scripted⟩ | ⟨rfl, unfinished⟩
      · exact (ih before).mono (List.prefix_append steps [last])
      · refine .atOnce ?_ scripted
        rw [reached_concat, step_fetches_length_of_starts starts]
        exact Nat.lt_succ_self _
      · obtain ⟨started, open?⟩ := unfinished_iff.mp unfinished
        refine .resolved ?_ steps (occurs_last steps _) started ?_
        · cases scripted : script fetch with
          | none => rfl
          | some scriptedOutcome =>
              cases open?.symm.trans (outcome?_of_scripted script steps scripted started)
        · -- Had the fetch been resolved before, it would not be under way any more.
          intro before other resolved
          apply Nat.le_of_not_lt
          intro wasStarted
          have hasEnded : ∃ outcome, ((reached script before).step script
              (.resolve fetch other)).outcome? fetch = some outcome := by
            by_cases wasOpen : (reached script before).Unfinished fetch
            · exact ⟨other, outcome?_settle wasOpen other⟩
            · cases ended : (reached script before).outcome? fetch with
              | none => exact absurd (unfinished_iff.mpr ⟨wasStarted, ended⟩) wasOpen
              | some outcome => exact ⟨outcome, (Extends.step _ _).outcome? ended⟩
          obtain ⟨outcome, ended⟩ := hasEnded
          cases open?.symm.trans (resolved.extends.outcome? ended)

/-- The ledger knows how each fetch has ended. -/
theorem outcome?_reached_iff (script : Script α) (steps : List (CacheStep α)) (fetch : Nat)
    (outcome : Outcome α) :
    (reached script steps).outcome? fetch = some outcome ↔ Ended script steps fetch outcome := by
  refine ⟨ended_of_outcome? script steps, ?_⟩
  intro ended
  cases ended with
  | atOnce started scripted => exact outcome?_of_scripted script steps scripted started
  | resolved silent earlier resolves started first =>
      have unfinished : (reached script earlier).Unfinished fetch := by
        refine unfinished_iff.mpr ⟨started, ?_⟩
        cases known : (reached script earlier).outcome? fetch with
        | none => rfl
        | some former =>
            cases ended_of_outcome? script earlier known with
            | atOnce _ scripted => cases silent.symm.trans scripted
            | resolved _ before resolved wasStarted _ =>
                exact absurd wasStarted (Nat.not_lt_of_le (first before former resolved))
      exact resolves.extends.outcome? (outcome?_settle unfinished outcome)

theorem arrives_of_lt (script : Script α) (steps : List (CacheStep α)) {caller : Nat}
    (bound : caller < (reached script steps).callers.length) :
    ∃ earlier, Arrives script steps earlier caller := by
  induction steps using List.reverseRecOn with
  | nil => exact absurd bound (Nat.not_lt_zero caller)
  | append_singleton steps last ih =>
      by_cases before : caller < (reached script steps).callers.length
      · obtain ⟨earlier, count, occurs, range⟩ := ih before
        exact ⟨earlier, count, occurs.mono (List.prefix_append steps [last]), range⟩
      · rw [reached_concat, step_callers_length] at bound
        cases last with
        | get count => exact ⟨steps, count, occurs_last steps _, Nat.le_of_not_lt before, bound⟩
        | invalidate => exact absurd bound before
        | cancel cancelled => exact absurd bound before
        | resolve fetch outcome => exact absurd bound before

theorem Arrives.lt_callers_length {caller : Nat} (arrives : Arrives script steps earlier caller) :
    caller < (reached script steps).callers.length := by
  obtain ⟨count, occurs, _, new⟩ := arrives
  have extended : Extends ((reached script earlier).step script (.get count))
      (reached script steps) := occurs.extends
  have grown := extended.callers_length_le
  rw [step_callers_length] at grown
  exact Nat.lt_of_lt_of_le new grown

theorem Arrives.served {caller : Nat} {value : α} (arrives : Arrives script steps earlier caller)
    (held : (reached script earlier).value? = some value) :
    (reached script steps).joined? caller = none ∧
      (reached script steps).answer? caller = some (.value value) := by
  obtain ⟨count, occurs, old, new⟩ := arrives
  obtain ⟨later, found, joined, known⟩ := occurs.extends.callers (newcomer_served held old new)
  exact ⟨by simp only [joined?, found, Option.bind_some, joined],
    by simp only [answer?, found, Option.bind_some, known _ rfl]⟩

theorem Joins.joined? {caller fetch : Nat} (joins : Joins script steps caller fetch) :
    (reached script steps).joined? caller = some fetch := by
  obtain ⟨earlier, ⟨count, occurs, old, new⟩, empty, rfl⟩ := joins
  obtain ⟨later, found, joined, _⟩ := occurs.extends.callers (newcomer_joins script empty old new)
  simp only [Cache.joined?, found, Option.bind_some, joined]

theorem joins_iff (script : Script α) (steps : List (CacheStep α)) (caller fetch : Nat) :
    Joins script steps caller fetch ↔ (reached script steps).joined? caller = some fetch := by
  refine ⟨Joins.joined?, ?_⟩
  intro joined
  obtain ⟨entry, found, _⟩ := Option.bind_eq_some_iff.mp joined
  obtain ⟨earlier, arrives⟩ :=
    arrives_of_lt script steps (List.getElem?_eq_some_iff.mp found).1
  cases held : (reached script earlier).value? with
  | some value => cases joined.symm.trans (arrives.served held).1
  | none =>
      have joins : Joins script steps caller (reached script earlier).joinable :=
        ⟨earlier, arrives, held, rfl⟩
      exact Option.some.inj (joins.joined?.symm.trans joined) ▸ joins

theorem Joins.answered_of_ended {caller fetch : Nat} {outcome : Outcome α}
    (joins : Joins script steps caller fetch) (ended : Ended script steps fetch outcome) :
    ∃ answer, (reached script steps).answer? caller = some answer := by
  have known := (outcome?_reached_iff script steps fetch outcome).mpr ended
  obtain ⟨entry, found, joined⟩ := Option.bind_eq_some_iff.mp joins.joined?
  obtain ⟨fetched, fetchedFound, answered⟩ :=
    (WellFormed.reached script steps).callers.joined found joined
  simp only [outcome?, fetchedFound, Option.bind_some] at known
  simp only [answer?, found, Option.bind_some]
  exact Option.isSome_iff_exists.mp (answered (known ▸ rfl))

end Cache

end WorkItemQuery
