import Mathlib.Data.List.Chain
import Mathlib.Data.List.Forall2
import WorkItemQuery.Proofs.BoundChecker.History

/-!
# A cached source is transparent

Two checkers go through the same session, one that asks its source directly and one that asks it
through a cache. If the cache is invalidated each time the source starts to give something else,
then the two give the same results, and the cache never fetches more often. Main statement:
`cached_source_transparent`.
-/

namespace WorkItemQuery

/-- What an error of the source comes to when it is fetched for a cache. -/
def BoundError.throughCache : BoundError → BoundError
  | .refused (.failed failure) => .fetchFailed failure
  | error => error

def BoundResult.throughCache : BoundResult → BoundResult
  | .error fault => .error fault.throughCache
  | result => result

namespace BoundStep

def isInvalidate : BoundStep → Bool
  | .invalidate => true
  | _ => false

theorem isInvalidate_iff {step : BoundStep} : step.isInvalidate ↔ step = .invalidate := by
  cases step <;> simp [isInvalidate]

end BoundStep

def withoutInvalidates (steps : List BoundStep) : List BoundStep :=
  steps.filter fun step => !step.isInvalidate

/-- The cache is invalidated right after each change of the source, before anything else is done. It
may be invalidated at other times. -/
def InvalidatedOnChange (steps : List BoundStep) : Prop :=
  steps.IsChain fun step next => step.changesSource → next = .invalidate

namespace BoundChecker

variable {checker source plain cached : BoundChecker} {steps : List BoundStep} {step : BoundStep}

/-- The results of a session, with the numbers of fetches, but for the invalidations. -/
def answers (checker : BoundChecker) (steps : List BoundStep) : List (BoundResult × Nat) :=
  ((steps.zip (checker.session steps).result).filter fun answer => !answer.1.isInvalidate).map (·.2)

/-- The same but for what the source itself raised, after as many fetches or fewer. -/
def AnsweredAlike (plain cached : BoundResult × Nat) : Prop :=
  cached.1 = plain.1.throughCache ∧ cached.2 ≤ plain.2

/-- The same checker in all but the way to its source, which is direct for the one and through a
cache for the other. -/
structure Mirrors (plain cached : BoundChecker) : Prop where
  direct : plain.access = .direct
  throughCache : cached.access = .cached
  alike : cached = plain.withSource cached
  fetches : cached.fetches ≤ plain.fetches
  idle : cached.cache.pending? = none
  uncancelled : ∀ text, plain.refusal? ≠ some (.cancelled text)

/-- The cache holds nothing but what the source would give. -/
def UpToDate (cached : BoundChecker) : Prop :=
  ∀ snapshot, cached.cache.value? = some snapshot →
    snapshot = cached.currentSnapshot ∧ cached.refusal? = none

/-- What goes wrong with a snapshot at hand did not come from the source. -/
theorem lookupFor_throughCache (checker : BoundChecker) (snapshot : Nat) :
    (checker.lookupFor snapshot).result.mapError .throughCache =
      (checker.lookupFor snapshot).result := by
  simp only [lookupFor]
  cases checker.built?.filter (·.snapshot == snapshot) with
  | some built => rfl
  | none =>
      simp only [rebuild]
      cases checker.fieldsOf? snapshot with
      | none => rfl
      | some fields =>
          simp only
          cases (FieldLookup.buildLogged fields).result with
          | error error => rfl
          | ok lookup => rfl

theorem step_throughCache (checker : BoundChecker) (quiet : step.asks = false) :
    (checker.step step).result.throughCache = (checker.step step).result := by
  cases step with
  | snapshot sources =>
      cases sources with
      | none => rfl
      | some sources =>
          simp only [step, snapshotStep]
          cases FieldSource.readAll sources with
          | error error => rfl
          | ok fields => rfl
  | extend sources =>
      simp only [step, extendStep]
      split
      · rfl
      · rfl
      · rfl
  | refuse refusal? => rfl
  | invalidate => rfl
  | lookup => cases quiet
  | check query => cases quiet

/-- What does not concern the source happens to both checkers alike. -/
theorem Mirrors.moved {after : BoundChecker} (mirrors : Mirrors plain cached)
    (access : after.access = plain.access) (fetches : after.fetches = plain.fetches)
    (uncancelled : ∀ text, after.refusal? ≠ some (.cancelled text)) :
    Mirrors after (after.withSource cached) where
  direct := access.trans mirrors.direct
  throughCache := mirrors.throughCache
  alike := rfl
  fetches := fetches ▸ mirrors.fetches
  idle := mirrors.idle
  uncancelled := uncancelled

namespace Mirrors

variable (mirrors : Mirrors plain cached)

include mirrors

theorem currentSnapshot : cached.currentSnapshot = plain.currentSnapshot := by
  rw [mirrors.alike]
  rfl

theorem refusal : cached.refusal? = plain.refusal? := by
  rw [mirrors.alike]
  rfl

theorem upToDate_moved {after : BoundChecker} (upToDate : UpToDate cached)
    (current : after.currentSnapshot = plain.currentSnapshot)
    (refusal : after.refusal? = plain.refusal?) : UpToDate (after.withSource cached) := by
  intro snapshot held
  obtain ⟨same, willing⟩ := upToDate snapshot held
  rw [mirrors.currentSnapshot] at same
  rw [mirrors.refusal] at willing
  exact ⟨same.trans current.symm, refusal.trans willing⟩

theorem fetchOutcome : cached.fetchOutcome = plain.fetchOutcome := by
  rw [mirrors.alike]
  rfl

theorem variableTable : cached.variableTable = plain.variableTable := by
  rw [mirrors.alike]
  rfl

/-- Asking a direct source only counts. -/
theorem obtain_plain : plain.obtain.checker = { plain with fetches := plain.fetches + 1 } := by
  rw [obtain_of_direct mirrors.direct]
  rfl

theorem obtain_alike :
    cached.obtain.checker = plain.obtain.checker.withSource cached.obtain.checker := by
  calc cached.obtain.checker
    _ = cached.withSource cached.obtain.checker := obtain_withSource cached
    _ = (plain.withSource cached).withSource cached.obtain.checker :=
        congrArg (·.withSource cached.obtain.checker) mirrors.alike
    _ = plain.obtain.checker.withSource cached.obtain.checker := by rw [mirrors.obtain_plain]; rfl

theorem obtained (upToDate : UpToDate cached) :
    cached.obtain.result = plain.obtain.result.mapError .throughCache := by
  rw [obtain_of_direct mirrors.direct, obtain_of_cached mirrors.throughCache, obtainDirect]
  cases held : cached.cache.value? with
  | some snapshot =>
      obtain ⟨rfl, willing⟩ := upToDate snapshot held
      rw [mirrors.refusal] at willing
      rw [obtainCached_of_value held, willing, mirrors.currentSnapshot]
      rfl
  | none =>
      rw [obtainCached_of_idle held mirrors.idle, mirrors.fetchOutcome, BoundChecker.fetchOutcome]
      cases refused : plain.refusal? with
      | none => rfl
      | some refusal =>
          cases refusal with
          | failed failure => rfl
          | cancelled text => exact absurd refused (mirrors.uncancelled text)

theorem fetches_obtain : cached.obtain.checker.fetches ≤ plain.obtain.checker.fetches := by
  have before := mirrors.fetches
  rw [mirrors.obtain_plain, obtain_of_cached mirrors.throughCache]
  change cached.fetches + cached.newFetches ≤ plain.fetches + 1
  have once : cached.newFetches ≤ 1 := by
    cases held : cached.cache.value? with
    | some snapshot => simp [newFetches_of_value held]
    | none => simp [newFetches_of_idle held mirrors.idle]
  omega

/-- A fetch for the cache is over at once, and the cache keeps what it gave. -/
theorem askedCache_settled (upToDate : UpToDate cached) :
    cached.askedCache.pending? = none ∧
      ∀ snapshot, cached.askedCache.value? = some snapshot →
        snapshot = cached.currentSnapshot ∧ cached.refusal? = none := by
  cases held : cached.cache.value? with
  | some value =>
      rw [askedCache_of_value held]
      exact ⟨mirrors.idle, upToDate⟩
  | none =>
      obtain ⟨ended, now, empty, _, published⟩ := askedCache_published held mirrors.idle
      rw [published, BoundChecker.fetchOutcome]
      cases refused : cached.refusal? with
      | none =>
          rw [Cache.publish_value _ now.symm]
          refine ⟨rfl, fun snapshot given => ⟨?_, rfl⟩⟩
          exact (Option.some.inj given).symm
      | some refusal =>
          cases refusal with
          | failed failure =>
              simp only [Refusal.outcome]
              rw [Cache.publish_failed _ now.symm]
              refine ⟨rfl, fun snapshot given => ?_⟩
              cases empty.symm.trans given
          | cancelled text =>
              exact absurd (mirrors.refusal.symm.trans refused) (mirrors.uncancelled text)

theorem obtain (upToDate : UpToDate cached) :
    Mirrors plain.obtain.checker cached.obtain.checker where
  direct := obtain_access.trans mirrors.direct
  throughCache := obtain_access.trans mirrors.throughCache
  alike := mirrors.obtain_alike
  fetches := mirrors.fetches_obtain
  idle := by
    rw [obtain_of_cached mirrors.throughCache]
    exact (mirrors.askedCache_settled upToDate).1
  uncancelled := by
    rw [mirrors.obtain_plain]
    exact mirrors.uncancelled

theorem upToDate_obtain (upToDate : UpToDate cached) : UpToDate cached.obtain.checker := by
  rw [obtain_of_cached mirrors.throughCache]
  exact (mirrors.askedCache_settled upToDate).2

end Mirrors

theorem Mirrors.fieldLookup (mirrors : Mirrors plain cached) (upToDate : UpToDate cached) :
    Mirrors plain.fieldLookup.checker cached.fieldLookup.checker ∧
      UpToDate cached.fieldLookup.checker ∧
      cached.fieldLookup.result = plain.fieldLookup.result.mapError .throughCache := by
  have asked := mirrors.obtain upToDate
  have still := mirrors.upToDate_obtain upToDate
  have obtained := mirrors.obtained upToDate
  cases given : plain.obtain.result with
  | error error =>
      rw [given] at obtained
      obtain ⟨plainAfter, plainResult⟩ := fieldLookup_of_error given
      obtain ⟨cachedAfter, cachedResult⟩ := fieldLookup_of_error obtained
      rw [plainAfter, cachedAfter, plainResult, cachedResult]
      exact ⟨asked, still, rfl⟩
  | ok snapshot =>
      rw [given] at obtained
      obtain ⟨plainAfter, plainResult⟩ := fieldLookup_of_ok given
      obtain ⟨cachedAfter, cachedResult⟩ := fieldLookup_of_ok obtained
      have found := lookupFor_withSource plain.obtain.checker cached.obtain.checker snapshot
      rw [← asked.alike] at found
      obtain ⟨built?, builds, after⟩ := plain.obtain.checker.lookupFor_checker snapshot
      rw [plainAfter, plainResult, cachedAfter, cachedResult, found, lookupFor_throughCache, after]
      exact ⟨asked.moved rfl rfl asked.uncancelled, asked.upToDate_moved still rfl rfl, rfl⟩

/-- A step that asks gives both checkers the same, but for what the source itself raised. -/
theorem Mirrors.step_of_asks (mirrors : Mirrors plain cached) (upToDate : UpToDate cached)
    (asks : step.asks) :
    Mirrors (plain.step step).checker (cached.step step).checker ∧
      UpToDate (cached.step step).checker ∧
      (cached.step step).result = (plain.step step).result.throughCache := by
  obtain ⟨after, still, found⟩ := mirrors.fieldLookup upToDate
  cases step with
  | lookup =>
      simp only [step, lookupStep, found]
      cases plain.fieldLookup.result with
      | error error => exact ⟨after, still, rfl⟩
      | ok built =>
          have given := handOut_withSource plain.fieldLookup.checker cached.fieldLookup.checker
            built.serial
          rw [← after.alike] at given
          obtain ⟨handedOut, handed⟩ := plain.fieldLookup.checker.handOut_checker built.serial
          simp only [Except.mapError, given, handed]
          exact ⟨after.moved rfl rfl after.uncancelled, after.upToDate_moved still rfl rfl, rfl⟩
  | check query =>
      simp only [step, checkStep, found, mirrors.variableTable]
      cases plain.fieldLookup.result with
      | error error => exact ⟨after, still, rfl⟩
      | ok built =>
          refine ⟨after, still, ?_⟩
          change BoundResult.ofCheck _ = (BoundResult.ofCheck _).throughCache
          cases (visit _ query).result with
          | error fault => rfl
          | ok diagnostics => rfl
  | snapshot fields => cases asks
  | extend fields => cases asks
  | refuse refusal => cases asks
  | invalidate => cases asks

/-- A step that does not ask gives both checkers the same. -/
theorem Mirrors.step_of_quiet (mirrors : Mirrors plain cached) (upToDate : UpToDate cached)
    (quiet : step.asks = false) (kept : step.isInvalidate = false)
    (uncancelled : ∀ text, step ≠ .refuse (some (.cancelled text))) :
    Mirrors (plain.step step).checker (cached.step step).checker ∧
      (step.changesSource = false → UpToDate (cached.step step).checker) ∧
      (cached.step step).result = (plain.step step).result.throughCache := by
  have notInvalidate : step ≠ .invalidate := by
    rintro rfl
    cases kept
  have same := step_withSource plain cached quiet notInvalidate
  rw [← mirrors.alike] at same
  rw [same, plain.step_throughCache quiet]
  rcases step_of_not_asks plain quiet with
    ⟨snapshots, _, keeps, plainAfter⟩ | ⟨refusal?, rfl, plainAfter⟩ | ⟨rfl, _⟩
  · rw [plainAfter]
    refine ⟨mirrors.moved rfl rfl mirrors.uncancelled, fun same => ?_, rfl⟩
    exact mirrors.upToDate_moved upToDate (congrArg (· - 1) (keeps same)) rfl
  · rw [plainAfter]
    refine ⟨mirrors.moved rfl rfl ?_, nofun, rfl⟩
    rintro text rfl
    exact uncancelled text rfl
  · cases kept

theorem Mirrors.invalidate (mirrors : Mirrors plain cached) :
    Mirrors plain (cached.step .invalidate).checker ∧
      UpToDate (cached.step .invalidate).checker where
  left :=
    { direct := mirrors.direct
      throughCache := mirrors.throughCache
      alike := congrArg (fun checker : BoundChecker =>
        { checker with cache := cached.cache.invalidate, unheard? := none }) mirrors.alike
      fetches := mirrors.fetches
      idle := rfl
      uncancelled := mirrors.uncancelled }
  right _ held := nomatch held

theorem answers_cons_invalidate (checker : BoundChecker) (steps : List BoundStep) :
    checker.answers (.invalidate :: steps) =
      (checker.step .invalidate).checker.answers steps := rfl

theorem answers_cons (checker : BoundChecker) (kept : step.isInvalidate = false) :
    checker.answers (step :: steps) =
      ((checker.step step).result, (checker.step step).checker.fetches) ::
        (checker.step step).checker.answers steps := by
  simp [answers, session, kept]

/-- The two sessions give the same from any point on at which the cache is up to date or about to be
invalidated. -/
theorem Mirrors.session (mirrors : Mirrors plain cached)
    (upToDate : ∀ next ∈ steps.head?, next = .invalidate ∨ UpToDate cached)
    (invalidated : InvalidatedOnChange steps)
    (uncancelled : ∀ text, BoundStep.refuse (some (.cancelled text)) ∉ steps) :
    List.Forall₂ AnsweredAlike (plain.session (withoutInvalidates steps)).result
      (cached.answers steps) := by
  induction steps generalizing plain cached with
  | nil => exact .nil
  | cons step steps ih =>
      obtain ⟨onChange, continued⟩ := List.isChain_cons.mp invalidated
      have stillUncancelled : ∀ text, BoundStep.refuse (some (.cancelled text)) ∉ steps :=
        fun text member => uncancelled text (List.mem_cons_of_mem _ member)
      have whenHere := upToDate step rfl
      cases kept : step.isInvalidate with
      | true =>
          -- The direct checker stands still here.
          obtain rfl := BoundStep.isInvalidate_iff.mp kept
          obtain ⟨after, renewed⟩ := mirrors.invalidate
          rw [answers_cons_invalidate]
          exact ih after (fun next _ => .inr renewed) continued stillUncancelled
      | false =>
          have here : UpToDate cached := by
            rcases whenHere with rfl | here
            · cases kept
            · exact here
          have only : withoutInvalidates (step :: steps) = step :: withoutInvalidates steps :=
            List.filter_cons_of_pos (by simp [kept])
          rw [only, answers_cons cached kept]
          cases quiet : step.asks with
          | true =>
              obtain ⟨after, still, result⟩ := mirrors.step_of_asks here quiet
              exact .cons ⟨result, after.fetches⟩
                (ih after (fun next _ => .inr still) continued stillUncancelled)
          | false =>
              have willing : ∀ text, step ≠ .refuse (some (.cancelled text)) := by
                rintro text rfl
                exact uncancelled text List.mem_cons_self
              obtain ⟨after, still, result⟩ := mirrors.step_of_quiet here quiet kept willing
              refine .cons ⟨result, after.fetches⟩ (ih after ?_ continued stillUncancelled)
              intro next isNext
              -- After a change the cache may be out of date, but then it is invalidated next.
              cases changes : step.changesSource with
              | true => exact .inl (onChange next isNext changes)
              | false => exact .inr (still changes)

/-- A cache that is invalidated right after each change of the source goes unnoticed: every step
gives what it would give without the cache, except that a failure of the source comes as a failed
fetch, and there were never more fetches. -/
theorem cached_source_transparent (table : VariableTable) {plain cached : List BoundStep}
    (same : withoutInvalidates cached = plain) (invalidated : InvalidatedOnChange cached)
    (uncancelled : ∀ text, BoundStep.refuse (some (.cancelled text)) ∉ plain) :
    List.Forall₂ AnsweredAlike ((fresh table .direct).session plain).result
      ((fresh table .cached).answers cached) := by
  subst same
  have mirrors : Mirrors (fresh table .direct) (fresh table .cached) :=
    ⟨rfl, rfl, rfl, Nat.le_refl _, rfl, nofun⟩
  have empty : UpToDate (fresh table .cached) := nofun
  refine mirrors.session (fun next _ => .inr empty) invalidated ?_
  intro text member
  exact uncancelled text (List.mem_filter.mpr ⟨member, rfl⟩)

namespace SourceRefuses

def failure : Failure :=
  .raised .connection "no route"

def course : List BoundStep :=
  [.lookup, .lookup, .refuse (some (.failed failure)), .lookup, .refuse none, .lookup]

def invalidatedCourse : List BoundStep :=
  [.lookup, .lookup, .refuse (some (.failed failure)), .invalidate, .lookup, .refuse none,
    .invalidate, .invalidate, .lookup]

end SourceRefuses

open SourceRefuses in
theorem refusal_seen_through_cache :
    withoutInvalidates invalidatedCourse = course ∧ InvalidatedOnChange invalidatedCourse ∧
      (∀ text, BoundStep.refuse (some (.cancelled text)) ∉ course) ∧
      ((fresh .predefined .direct).session course).result =
        [(.lookup 0 [], 1), (.lookup 0 [], 2), (.nothing, 2),
          (.error (.refused (.failed failure)), 3), (.nothing, 3), (.lookup 0 [], 4)] ∧
      (fresh .predefined .cached).answers invalidatedCourse =
        [(.lookup 0 [], 1), (.lookup 0 [], 1), (.nothing, 1),
          (.error (.fetchFailed failure), 2), (.nothing, 2), (.lookup 0 [], 3)] ∧
      List.Forall₂ AnsweredAlike ((fresh .predefined .direct).session course).result
        ((fresh .predefined .cached).answers invalidatedCourse) := by
  have same : withoutInvalidates invalidatedCourse = course := rfl
  have invalidated : InvalidatedOnChange invalidatedCourse := by
    simp [InvalidatedOnChange, invalidatedCourse, BoundStep.changesSource]
  have uncancelled : ∀ text, BoundStep.refuse (some (.cancelled text)) ∉ course := by
    simp [course]
  exact ⟨same, invalidated, uncancelled, rfl, rfl,
    cached_source_transparent .predefined same invalidated uncancelled⟩

end BoundChecker

end WorkItemQuery
