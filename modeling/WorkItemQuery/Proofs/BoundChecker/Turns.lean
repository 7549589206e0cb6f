import WorkItemQuery.BoundChecker.Session
import WorkItemQuery.Proofs.Cache.Steps

/-!
# Turns of a bound checker

What a checker gets from its source, directly or through a cache, and how it comes to its lookup
from there: it has one from the very snapshot already, or it builds one from what the snapshot holds
now.
-/

namespace WorkItemQuery

/-- The lookup that a snapshot makes with what it holds now. -/
def plainLookup : Option (List FieldDescriptor) → Except BoundError FieldLookup
  | none => .error .noSnapshot
  | some fields => (FieldLookup.build fields).mapError .analysis

namespace BoundStep

/-- A step that asks the source. -/
def asks : BoundStep → Bool
  | .lookup => true
  | .check _ => true
  | _ => false

/-- A step after which the source may give something else than before. -/
def changesSource : BoundStep → Bool
  | .snapshot _ => true
  | .refuse _ => true
  | _ => false

end BoundStep

namespace BoundChecker

variable {checker : BoundChecker}

/-- The checker with the source of another, and all that belongs to asking it. -/
def withSource (checker source : BoundChecker) : BoundChecker :=
  { checker with
    access := source.access
    cache := source.cache
    unheard? := source.unheard?
    fetches := source.fetches }

/-- The snapshot that the source would give, unless it refuses. -/
def offered (checker : BoundChecker) : Nat :=
  checker.cache.value?.getD checker.currentSnapshot

theorem obtain_withSource (checker : BoundChecker) :
    checker.obtain.checker = checker.withSource checker.obtain.checker := by
  unfold obtain
  split <;> rfl

@[simp] theorem obtain_built : checker.obtain.checker.built? = checker.built? := by
  rw [obtain_withSource]
  rfl

@[simp] theorem obtain_builds : checker.obtain.checker.builds = checker.builds := by
  rw [obtain_withSource]
  rfl

@[simp] theorem obtain_snapshots : checker.obtain.checker.snapshots = checker.snapshots := by
  rw [obtain_withSource]
  rfl

@[simp] theorem obtain_handedOut : checker.obtain.checker.handedOut = checker.handedOut := by
  rw [obtain_withSource]
  rfl

@[simp] theorem obtain_variableTable :
    checker.obtain.checker.variableTable = checker.variableTable := by
  rw [obtain_withSource]
  rfl

@[simp] theorem obtain_access : checker.obtain.checker.access = checker.access := by
  unfold obtain
  split <;> rfl

@[simp] theorem obtain_currentSnapshot :
    checker.obtain.checker.currentSnapshot = checker.currentSnapshot := by
  rw [currentSnapshot, obtain_snapshots, currentSnapshot]

@[simp] theorem obtain_fieldsOf (snapshot : Nat) :
    checker.obtain.checker.fieldsOf? snapshot = checker.fieldsOf? snapshot := by
  rw [fieldsOf?, obtain_snapshots, fieldsOf?]

theorem obtain_of_direct (direct : checker.access = .direct) :
    checker.obtain = checker.obtainDirect := by
  rw [obtain, direct]

theorem obtain_of_cached (cached : checker.access = .cached) :
    checker.obtain = checker.obtainCached := by
  rw [obtain, cached]

section Cached

/-! A cache that is asked by one caller at a time, whose every fetch is over at once. -/

theorem askedCache_of_value {snapshot : Nat} (held : checker.cache.value? = some snapshot) :
    checker.askedCache = checker.cache.serve snapshot 1 :=
  Cache.get_of_value held 1

theorem askedCache_of_pending {fetch : Nat} (empty : checker.cache.value? = none)
    (pending : checker.cache.pending? = some fetch) :
    checker.askedCache = checker.cache.join fetch 1 :=
  Cache.get_of_pending empty pending 1

theorem askedCache_of_idle (empty : checker.cache.value? = none)
    (idle : checker.cache.pending? = none) :
    checker.askedCache =
      checker.cache.launch (fun _ => some checker.fetchOutcome) 1 :=
  Cache.get_of_idle empty idle 1

theorem newFetches_of_value {snapshot : Nat} (held : checker.cache.value? = some snapshot) :
    checker.newFetches = 0 := by
  rw [newFetches, askedCache_of_value held]
  exact Nat.sub_self _

theorem newFetches_of_idle (empty : checker.cache.value? = none)
    (idle : checker.cache.pending? = none) : checker.newFetches = 1 := by
  rw [newFetches, askedCache_of_idle empty idle, Cache.launch_fetches_length,
    Nat.add_sub_cancel_left]

/-- The cache after a fetch that was over at once. -/
theorem askedCache_published (empty : checker.cache.value? = none)
    (idle : checker.cache.pending? = none) :
    ∃ ended : Cache Nat, ended.generation = checker.cache.generation ∧ ended.value? = none ∧
      ended.pending? = some checker.cache.fetches.length ∧
      checker.askedCache = ended.publish checker.cache.generation checker.fetchOutcome := by
  refine ⟨(checker.cache.start.join checker.cache.fetches.length 1).finish
    checker.cache.fetches.length checker.cache.generation checker.fetchOutcome, rfl, empty, rfl, ?_⟩
  have started : (checker.cache.start.join checker.cache.fetches.length 1).fetches[
      checker.cache.fetches.length]? = some ⟨checker.cache.generation, none⟩ :=
    Cache.start_fetches_getElem? checker.cache
  rw [askedCache_of_idle empty idle, Cache.launch_of_scripted rfl, Cache.settle_of_open started]

theorem askedCache_answer_of_value {snapshot : Nat}
    (held : checker.cache.value? = some snapshot) :
    checker.askedCache.answer? checker.cache.callers.length = some (.value snapshot) := by
  have newcomer : checker.askedCache.callers[checker.cache.callers.length]? =
      some ⟨none, some (.value snapshot)⟩ :=
    Cache.newcomer_served held (Nat.le_refl _) (Nat.lt_succ_self _)
  rw [Cache.answer?, newcomer]
  rfl

theorem askedCache_answer_of_empty (empty : checker.cache.value? = none) :
    checker.askedCache.answer? checker.cache.callers.length =
      checker.askedCache.outcome? checker.cache.joinable := by
  have newcomer : checker.askedCache.callers[checker.cache.callers.length]? =
      some ⟨some checker.cache.joinable, checker.askedCache.outcome? checker.cache.joinable⟩ :=
    Cache.newcomer_joins _ empty (Nat.le_refl _) (Nat.lt_succ_self _)
  rw [Cache.answer?, newcomer]
  rfl

theorem obtainCached_of_value {snapshot : Nat} (held : checker.cache.value? = some snapshot) :
    checker.obtainCached.result = .ok snapshot := by
  simp only [obtainCached, askedCache_answer_of_value held]
  rfl

/-- A fetch that is pending although it is over was cancelled. -/
theorem obtainCached_of_pending (wellFormed : checker.cache.WellFormed) {fetch : Nat}
    (empty : checker.cache.value? = none) (pending : checker.cache.pending? = some fetch) :
    ∃ text, checker.obtainCached.result = .error (.fetchCancelled text) := by
  obtain ⟨entry, found, _, outcome⟩ := wellFormed.current.pending pending
  have joinable : checker.cache.joinable = fetch := by
    rw [Cache.joinable, pending, Option.getD_some]
  have ended : checker.askedCache.outcome? fetch = entry.outcome? := by
    rw [askedCache_of_pending empty pending, Cache.outcome?]
    exact congrArg (Option.bind · Fetch.outcome?) found
  have answer : (checker.askedCache.answer? checker.cache.callers.length).getD .cancelled =
      .cancelled := by
    rw [askedCache_answer_of_empty empty, joinable, ended]
    rcases outcome with silent | cancelled
    · rw [silent, Option.getD_none]
    · rw [cancelled, Option.getD_some]
  simp only [obtainCached, answer]
  exact ⟨_, rfl⟩

theorem obtainCached_of_idle (empty : checker.cache.value? = none)
    (idle : checker.cache.pending? = none) :
    checker.obtainCached.result = ofOutcome "" checker.fetchOutcome := by
  have joinable : checker.cache.joinable = checker.cache.fetches.length := by
    rw [Cache.joinable, idle, Option.getD_none]
  have ended : checker.askedCache.outcome? checker.cache.fetches.length =
      some checker.fetchOutcome := by
    rw [askedCache_of_idle empty idle, Cache.outcome?_launch]
  simp only [obtainCached, askedCache_answer_of_empty empty, joinable, ended, Option.getD_some,
    newFetches_of_idle empty idle, if_neg Nat.one_ne_zero]

/-- What is in the cache after a successful fetch stays the snapshot that the source would give. -/
theorem askedCache_value (checker : BoundChecker) :
    checker.askedCache.value?.getD checker.currentSnapshot = checker.offered := by
  cases held : checker.cache.value? with
  | some snapshot => rw [askedCache_of_value held, offered]; rfl
  | none =>
      cases pending : checker.cache.pending? with
      | some fetch => rw [askedCache_of_pending held pending, offered]; rfl
      | none =>
          obtain ⟨ended, now, empty, _, published⟩ := askedCache_published held pending
          rw [published, offered, held, Option.getD_none, fetchOutcome]
          cases checker.refusal? with
          | none => rw [Cache.publish_value _ now.symm]; rfl
          | some refusal =>
              cases refusal with
              | failed failure =>
                  simp only [Refusal.outcome]
                  rw [Cache.publish_failed _ now.symm]
                  exact congrArg (Option.getD · _) empty
              | cancelled text =>
                  simp only [Refusal.outcome]
                  rw [Cache.publish_cancelled, empty, Option.getD_none]

theorem offered_of_obtainCached {snapshot : Nat} (wellFormed : checker.cache.WellFormed)
    (obtained : checker.obtainCached.result = .ok snapshot) : snapshot = checker.offered := by
  cases held : checker.cache.value? with
  | some value =>
      rw [obtainCached_of_value held] at obtained
      cases obtained
      rw [offered, held, Option.getD_some]
  | none =>
      cases pending : checker.cache.pending? with
      | some fetch =>
          obtain ⟨text, cancelled⟩ := obtainCached_of_pending wellFormed held pending
          cases cancelled.symm.trans obtained
      | none =>
          rw [obtainCached_of_idle held pending, fetchOutcome] at obtained
          cases refused : checker.refusal? with
          | none =>
              rw [refused] at obtained
              cases obtained
              rw [offered, held, Option.getD_none]
          | some refusal =>
              rw [refused] at obtained
              cases refusal <;> cases obtained

end Cached

/-- Asking leaves the source as it was in what it would give. -/
theorem obtain_offered (checker : BoundChecker) :
    checker.obtain.checker.offered = checker.offered := by
  cases access : checker.access with
  | direct => rw [obtain_of_direct access]; rfl
  | cached =>
      rw [offered, obtain_currentSnapshot, obtain_of_cached access]
      exact askedCache_value checker

/-- How a checker came to its lookup: the checker as it is afterwards, and the result. -/
inductive Found (checker : BoundChecker) :
    BoundChecker → Except BoundError BuiltLookup → Prop where
  | unobtained {error : BoundError} (failed : checker.obtain.result = .error error) :
      Found checker checker.obtain.checker (.error error)
  | remembered {built : BuiltLookup} (known : checker.built? = some built)
      (obtained : checker.obtain.result = .ok built.snapshot) :
      Found checker checker.obtain.checker (.ok built)
  | unmade {snapshot : Nat} {error : BoundError}
      (obtained : checker.obtain.result = .ok snapshot)
      (unknown : ∀ built, checker.built? = some built → built.snapshot ≠ snapshot)
      (failed : plainLookup (checker.fieldsOf? snapshot) = .error error) :
      Found checker checker.obtain.checker (.error error)
  | made {snapshot : Nat} {lookup : FieldLookup}
      (obtained : checker.obtain.result = .ok snapshot)
      (unknown : ∀ built, checker.built? = some built → built.snapshot ≠ snapshot)
      (made : plainLookup (checker.fieldsOf? snapshot) = .ok lookup) :
      Found checker
        { checker.obtain.checker with
          built? := some ⟨snapshot, checker.builds, lookup⟩
          builds := checker.builds + 1 }
        (.ok ⟨snapshot, checker.builds, lookup⟩)

theorem lookupFor_of_known {built : BuiltLookup} (known : checker.built? = some built) :
    checker.lookupFor built.snapshot = ⟨checker, [], .ok built⟩ := by
  simp only [lookupFor, known, Option.filter_some, beq_self_eq_true, if_true]

theorem lookupFor_of_unknown {snapshot : Nat}
    (unknown : ∀ built, checker.built? = some built → built.snapshot ≠ snapshot) :
    checker.lookupFor snapshot = checker.rebuild snapshot := by
  have none : checker.built?.filter (·.snapshot == snapshot) = none := by
    rw [Option.filter_eq_none_iff]
    intro built known same
    exact unknown built known (eq_of_beq same)
  simp only [lookupFor, none]

theorem buildLogged_result (fields : List FieldDescriptor) :
    (FieldLookup.buildLogged fields).result = FieldLookup.build fields := by
  unfold FieldLookup.buildLogged
  split <;> next built => exact built.symm

theorem rebuild_of_error {snapshot : Nat} {error : BoundError}
    (failed : plainLookup (checker.fieldsOf? snapshot) = .error error) :
    (checker.rebuild snapshot).checker = checker ∧
      (checker.rebuild snapshot).result = .error error := by
  cases held : checker.fieldsOf? snapshot with
  | none =>
      rw [held] at failed
      cases failed
      simp only [rebuild, held, and_self]
  | some fields =>
      rw [held, plainLookup] at failed
      cases built : FieldLookup.build fields with
      | ok lookup => rw [built] at failed; cases failed
      | error fault =>
          rw [built] at failed
          cases failed
          simp only [rebuild, held, buildLogged_result, built, and_self]

theorem rebuild_of_ok {snapshot : Nat} {lookup : FieldLookup}
    (made : plainLookup (checker.fieldsOf? snapshot) = .ok lookup) :
    (checker.rebuild snapshot).checker =
        { checker with
          built? := some ⟨snapshot, checker.builds, lookup⟩
          builds := checker.builds + 1 } ∧
      (checker.rebuild snapshot).result = .ok ⟨snapshot, checker.builds, lookup⟩ := by
  cases held : checker.fieldsOf? snapshot with
  | none => rw [held] at made; cases made
  | some fields =>
      rw [held, plainLookup] at made
      cases built : FieldLookup.build fields with
      | error fault => rw [built] at made; cases made
      | ok result =>
          rw [built] at made
          cases made
          simp only [rebuild, held, buildLogged_result, built, and_self]

theorem fieldLookup_of_error {error : BoundError} (failed : checker.obtain.result = .error error) :
    checker.fieldLookup.checker = checker.obtain.checker ∧
      checker.fieldLookup.result = .error error := by
  simp only [fieldLookup, failed, and_self]

theorem fieldLookup_of_ok {snapshot : Nat} (obtained : checker.obtain.result = .ok snapshot) :
    checker.fieldLookup.checker = (checker.obtain.checker.lookupFor snapshot).checker ∧
      checker.fieldLookup.result = (checker.obtain.checker.lookupFor snapshot).result := by
  simp only [fieldLookup, obtained, and_self]

theorem fieldLookup_of_known {built : BuiltLookup} (known : checker.built? = some built)
    (obtained : checker.obtain.result = .ok built.snapshot) :
    checker.fieldLookup.result = .ok built := by
  rw [(fieldLookup_of_ok obtained).2, lookupFor_of_known (obtain_built.trans known)]

theorem fieldLookup_found (checker : BoundChecker) :
    Found checker checker.fieldLookup.checker checker.fieldLookup.result := by
  cases obtained : checker.obtain.result with
  | error error =>
      obtain ⟨after, result⟩ := fieldLookup_of_error obtained
      rw [after, result]
      exact .unobtained obtained
  | ok snapshot =>
      obtain ⟨after, result⟩ := fieldLookup_of_ok obtained
      rw [after, result]
      by_cases known : ∃ built, checker.built? = some built ∧ built.snapshot = snapshot
      · obtain ⟨built, known, rfl⟩ := known
        rw [lookupFor_of_known (obtain_built.trans known)]
        exact .remembered known obtained
      · have unknown : ∀ built, checker.built? = some built → built.snapshot ≠ snapshot :=
          fun built held same => known ⟨built, held, same⟩
        rw [lookupFor_of_unknown (by rw [obtain_built]; exact unknown)]
        cases plain : plainLookup (checker.fieldsOf? snapshot) with
        | error error =>
            have alsoPlain := (congrArg plainLookup (obtain_fieldsOf snapshot)).trans plain
            obtain ⟨after, result⟩ := rebuild_of_error alsoPlain
            rw [after, result]
            exact .unmade obtained unknown plain
        | ok lookup =>
            have alsoPlain := (congrArg plainLookup (obtain_fieldsOf snapshot)).trans plain
            obtain ⟨after, result⟩ := rebuild_of_ok alsoPlain
            rw [after, result, obtain_builds]
            exact .made obtained unknown plain

theorem Found.built_of_ok {after : BoundChecker} {built : BuiltLookup}
    (found : Found checker after (.ok built)) :
    checker.obtain.result = .ok built.snapshot ∧ after.built? = some built := by
  cases found with
  | remembered known obtained => exact ⟨obtained, obtain_built.trans known⟩
  | made obtained unknown made => exact ⟨obtained, rfl⟩

section WithSource

/-! With a snapshot at hand, what becomes of a checker does not depend on the way to its source. -/

variable (checker source : BoundChecker)

theorem rebuild_withSource (snapshot : Nat) :
    (checker.withSource source).rebuild snapshot =
      { checker.rebuild snapshot with
        checker := (checker.rebuild snapshot).checker.withSource source } := by
  have fields : (checker.withSource source).fieldsOf? snapshot = checker.fieldsOf? snapshot := rfl
  simp only [rebuild, fields]
  cases checker.fieldsOf? snapshot with
  | none => rfl
  | some fields =>
      simp only
      cases (FieldLookup.buildLogged fields).result with
      | error error => rfl
      | ok lookup => rfl

theorem lookupFor_withSource (snapshot : Nat) :
    (checker.withSource source).lookupFor snapshot =
      { checker.lookupFor snapshot with
        checker := (checker.lookupFor snapshot).checker.withSource source } := by
  have built : (checker.withSource source).built? = checker.built? := rfl
  simp only [lookupFor, built, rebuild_withSource]
  cases checker.built?.filter (·.snapshot == snapshot) <;> rfl

theorem handOut_withSource (serial : Nat) :
    (checker.withSource source).handOut serial = (checker.handOut serial).withSource source := by
  have handedOut : (checker.withSource source).handedOut = checker.handedOut := rfl
  simp only [handOut, handedOut]
  split <;> rfl

/-- A step that neither asks nor invalidates does not depend on the way to the source. -/
theorem step_withSource {step : BoundStep} (quiet : step.asks = false)
    (kept : step ≠ .invalidate) :
    (checker.withSource source).step step =
      { checker.step step with checker := (checker.step step).checker.withSource source } := by
  cases step with
  | snapshot sources =>
      cases sources with
      | none => rfl
      | some sources =>
          simp only [step, snapshotStep]
          cases FieldSource.readAll sources <;> rfl
  | extend sources =>
      have current :
        (checker.withSource source).fieldsOf? (checker.withSource source).currentSnapshot =
          checker.fieldsOf? checker.currentSnapshot := rfl
      simp only [step, extendStep, current]
      split <;> rfl
  | refuse refusal? => rfl
  | invalidate => exact absurd rfl kept
  | lookup => cases quiet
  | check query => cases quiet

/-- What is built for a snapshot is remembered, and nothing else changes. -/
theorem lookupFor_checker (snapshot : Nat) :
    ∃ built? builds, (checker.lookupFor snapshot).checker = { checker with built?, builds } := by
  simp only [lookupFor]
  cases checker.built?.filter (·.snapshot == snapshot) with
  | some built => exact ⟨_, _, rfl⟩
  | none =>
      simp only [rebuild]
      cases checker.fieldsOf? snapshot with
      | none => exact ⟨_, _, rfl⟩
      | some fields =>
          simp only
          cases (FieldLookup.buildLogged fields).result with
          | error error => exact ⟨_, _, rfl⟩
          | ok lookup => exact ⟨_, _, rfl⟩

theorem handOut_checker (serial : Nat) :
    ∃ handedOut, checker.handOut serial = { checker with handedOut } := by
  simp only [handOut]
  split
  · exact ⟨_, rfl⟩
  · exact ⟨_, rfl⟩

end WithSource

end BoundChecker

end WorkItemQuery
