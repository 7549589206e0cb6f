import Mathlib.Data.List.Induction
import WorkItemQuery.Proofs.BoundChecker.Turns

/-!
# The history of a bound checker

In the course of a session the snapshots on offer only become later, and so do the lookups that are
built from them: a lookup that is built anew has a later snapshot and a higher serial number than
the one before it. Lookups that were handed out keep their numbers.
-/

namespace WorkItemQuery

/-- The same lookup, or one that was built afterwards and from a later snapshot. -/
def BuiltLookup.SameOrLater (former later : BuiltLookup) : Prop :=
  later = former ∨ former.snapshot < later.snapshot ∧ former.serial < later.serial

namespace BuiltLookup.SameOrLater

variable {first second third : BuiltLookup}

theorem refl (built : BuiltLookup) : built.SameOrLater built :=
  .inl rfl

theorem trans (former : first.SameOrLater second) (later : second.SameOrLater third) :
    first.SameOrLater third := by
  rcases former with rfl | ⟨snapshot, serial⟩
  · exact later
  · rcases later with rfl | ⟨laterSnapshot, laterSerial⟩
    · exact .inr ⟨snapshot, serial⟩
    · exact .inr ⟨Nat.lt_trans snapshot laterSnapshot, Nat.lt_trans serial laterSerial⟩

theorem snapshot_le (later : first.SameOrLater second) : first.snapshot ≤ second.snapshot := by
  rcases later with rfl | ⟨snapshot, _⟩
  · exact Nat.le_refl _
  · exact Nat.le_of_lt snapshot

/-- No snapshot has two lookups. -/
theorem serial_eq_iff (later : first.SameOrLater second) :
    first.serial = second.serial ↔ first.snapshot = second.snapshot := by
  rcases later with rfl | ⟨snapshot, serial⟩
  · exact iff_of_true rfl rfl
  · exact iff_of_false (Nat.ne_of_lt serial) (Nat.ne_of_lt snapshot)

end BuiltLookup.SameOrLater

namespace BoundChecker

variable {checker after : BoundChecker} {table : VariableTable} {access : SourceAccess}
  {steps earlier more : List BoundStep} {result : Except BoundError BuiltLookup}

def run (checker : BoundChecker) (steps : List BoundStep) : BoundChecker :=
  steps.foldl (fun checker step => (checker.step step).checker) checker

abbrev reached (table : VariableTable) (access : SourceAccess) (steps : List BoundStep) :
    BoundChecker :=
  (fresh table access).run steps

/-- A step of a session, by the steps before it. -/
def Occurs (steps earlier : List BoundStep) (step : BoundStep) : Prop :=
  earlier ++ [step] <+: steps

theorem Occurs.mono {step : BoundStep} (occurs : Occurs steps earlier step)
    (grows : steps <+: more) : Occurs more earlier step :=
  occurs.trans grows

@[simp] theorem run_cons (step : BoundStep) (steps : List BoundStep) :
    checker.run (step :: steps) = (checker.step step).checker.run steps := rfl

theorem run_append (first second : List BoundStep) :
    checker.run (first ++ second) = (checker.run first).run second :=
  List.foldl_append

theorem reached_append (first second : List BoundStep) :
    reached table access (first ++ second) = (reached table access first).run second :=
  run_append first second

theorem reached_concat (steps : List BoundStep) (last : BoundStep) :
    reached table access (steps ++ [last]) = ((reached table access steps).step last).checker :=
  reached_append steps [last]

theorem Found.handedOut
    (found : Found checker after result) : after.handedOut = checker.handedOut := by
  cases found <;> exact obtain_handedOut

theorem Found.snapshots
    (found : Found checker after result) : after.snapshots = checker.snapshots := by
  cases found <;> exact obtain_snapshots

theorem Found.variableTable
    (found : Found checker after result) : after.variableTable = checker.variableTable := by
  cases found <;> exact obtain_variableTable

theorem Found.access_eq
    (found : Found checker after result) : after.access = checker.access := by
  cases found <;> exact obtain_access

/-- A step that asks does to the checker what asking for the lookup does, and may hand it out. -/
theorem step_of_asks (checker : BoundChecker) {step : BoundStep} (asks : step.asks) :
    ∃ handedOut, checker.handedOut <+: handedOut ∧
      (checker.step step).checker = { checker.fieldLookup.checker with handedOut } := by
  have kept := checker.fieldLookup_found.handedOut
  cases step with
  | lookup =>
      simp only [step, lookupStep]
      cases checker.fieldLookup.result with
      | error error => exact ⟨_, kept ▸ List.prefix_refl _, rfl⟩
      | ok built =>
          simp only [handOut]
          split
          · exact ⟨_, kept ▸ List.prefix_refl _, rfl⟩
          · exact ⟨_, kept ▸ List.prefix_append _ _, rfl⟩
  | check query =>
      simp only [step, checkStep]
      cases checker.fieldLookup.result with
      | error error => exact ⟨_, kept ▸ List.prefix_refl _, rfl⟩
      | ok built => exact ⟨_, kept ▸ List.prefix_refl _, rfl⟩
  | snapshot fields => cases asks
  | extend fields => cases asks
  | refuse refusal => cases asks
  | invalidate => cases asks

/-- A lookup that is found is remembered and handed out under its number. -/
theorem step_lookup_of_ok {built : BuiltLookup} (found : checker.fieldLookup.result = .ok built) :
    checker.obtain.result = .ok built.snapshot ∧
      (checker.step .lookup).checker.built? = some built ∧
      built.serial ∈ (checker.step .lookup).checker.handedOut ∧
      (checker.step .lookup).result =
        .lookup ((checker.step .lookup).checker.handedOut.idxOf built.serial)
          built.lookup.keys := by
  have how := checker.fieldLookup_found
  rw [found] at how
  obtain ⟨obtained, remembered⟩ := how.built_of_ok
  simp only [step, lookupStep, found]
  refine ⟨obtained, ?_, ?_, rfl⟩
  · obtain ⟨handedOut, handed⟩ := checker.fieldLookup.checker.handOut_checker built.serial
    rw [handed]
    exact remembered
  · unfold handOut
    split
    · next member => exact member
    · exact List.mem_append_right _ (List.mem_singleton_self _)

/-- A step that does not ask changes the snapshots, the refusal or the cache, and nothing else. -/
theorem step_of_not_asks (checker : BoundChecker) {step : BoundStep} (quiet : step.asks = false) :
    (∃ snapshots, checker.snapshots.length ≤ snapshots.length ∧
        (step.changesSource = false → snapshots.length = checker.snapshots.length) ∧
        (checker.step step).checker = { checker with snapshots }) ∨
      (∃ refusal?, step = .refuse refusal? ∧
        (checker.step step).checker = { checker with refusal? }) ∨
      step = .invalidate ∧ (checker.step step).checker =
        { checker with cache := checker.cache.invalidate, unheard? := none } := by
  cases step with
  | snapshot sources =>
      have replaced : ∀ fields, ∃ snapshots, checker.snapshots.length ≤ snapshots.length ∧
          (true = false → snapshots.length = checker.snapshots.length) ∧
          checker.replaceSnapshot fields = { checker with snapshots } :=
        fun fields => ⟨_, (List.prefix_append _ [fields]).length_le, nofun, rfl⟩
      refine .inl ?_
      cases sources with
      | none => exact replaced none
      | some sources =>
          simp only [step, snapshotStep]
          cases FieldSource.readAll sources with
          | error error => exact ⟨_, Nat.le_refl _, fun _ => rfl, rfl⟩
          | ok fields => exact replaced (some fields)
  | extend sources =>
      have extended : ∀ fields, ∃ snapshots, checker.snapshots.length ≤ snapshots.length ∧
          (false = false → snapshots.length = checker.snapshots.length) ∧
          checker.extendSnapshot fields = { checker with snapshots } := by
        intro fields
        have same : (checker.extendSnapshot fields).snapshots.length = checker.snapshots.length :=
          List.length_modify _ _ _
        exact ⟨_, Nat.le_of_eq same.symm, fun _ => same, rfl⟩
      refine .inl ?_
      simp only [step, extendStep]
      split
      · exact ⟨_, Nat.le_refl _, fun _ => rfl, rfl⟩
      · exact extended _
      · exact extended _
  | refuse refusal? => exact .inr (.inl ⟨refusal?, rfl, rfl⟩)
  | invalidate => exact .inr (.inr ⟨rfl, rfl⟩)
  | lookup => cases quiet
  | check query => cases quiet

/-- Nothing is on offer that was replaced before the lookup at hand was built. -/
structure InOrder (checker : BoundChecker) : Prop where
  wellFormed : checker.cache.WellFormed
  direct : checker.access = .direct → checker.cache.value? = none
  offered : checker.offered ≤ checker.currentSnapshot
  built : ∀ {built : BuiltLookup}, checker.built? = some built →
    built.snapshot ≤ checker.offered ∧ built.serial < checker.builds

namespace InOrder

theorem fresh (table : VariableTable) (access : SourceAccess) :
    InOrder (BoundChecker.fresh table access) where
  wellFormed := .fresh
  direct _ := rfl
  offered := Nat.le_refl _
  built held := by cases held

theorem obtained_eq_offered (inOrder : InOrder checker) {snapshot : Nat}
    (obtained : checker.obtain.result = .ok snapshot) : snapshot = checker.offered := by
  cases access : checker.access with
  | direct =>
      rw [obtain_of_direct access, obtainDirect] at obtained
      cases refused : checker.refusal? with
      | some refusal => rw [refused] at obtained; cases obtained
      | none =>
          rw [refused] at obtained
          cases obtained
          rw [BoundChecker.offered, inOrder.direct access, Option.getD_none]
  | cached =>
      rw [obtain_of_cached access] at obtained
      exact offered_of_obtainCached inOrder.wellFormed obtained

theorem obtain (inOrder : InOrder checker) : InOrder checker.obtain.checker where
  wellFormed := by
    cases access : checker.access with
    | direct => rw [obtain_of_direct access]; exact inOrder.wellFormed
    | cached =>
        rw [obtain_of_cached access]
        exact inOrder.wellFormed.step (.get 1)
  direct access := by
    rw [obtain_access] at access
    rw [obtain_of_direct access]
    exact inOrder.direct access
  offered := by
    rw [obtain_offered, obtain_currentSnapshot]
    exact inOrder.offered
  built held := by
    rw [obtain_built] at held
    rw [obtain_offered, obtain_builds]
    exact inOrder.built held

theorem found (inOrder : InOrder checker)
    (found : Found checker after result) : InOrder after := by
  have asked := inOrder.obtain
  cases found with
  | unobtained failed => exact asked
  | remembered known obtained => exact asked
  | unmade obtained unknown failed => exact asked
  | made obtained unknown made =>
      refine ⟨asked.wellFormed, asked.direct, asked.offered, ?_⟩
      intro built held
      obtain rfl := Option.some.inj held
      refine ⟨?_, Nat.lt_succ_self _⟩
      rw [inOrder.obtained_eq_offered obtained, ← obtain_offered]
      exact Nat.le_refl _

theorem withSnapshots (inOrder : InOrder checker) {snapshots : List (Option (List FieldDescriptor))}
    (grows : checker.snapshots.length ≤ snapshots.length) :
    InOrder { checker with snapshots } := by
  have current : checker.currentSnapshot ≤ snapshots.length - 1 := Nat.sub_le_sub_right grows 1
  have bounded := inOrder.offered
  have offered : checker.offered ≤ checker.cache.value?.getD (snapshots.length - 1) ∧
      checker.cache.value?.getD (snapshots.length - 1) ≤ snapshots.length - 1 := by
    unfold BoundChecker.offered at bounded ⊢
    cases held : checker.cache.value? with
    | some snapshot =>
        rw [held] at bounded
        exact ⟨Nat.le_refl _, Nat.le_trans bounded current⟩
    | none => exact ⟨current, Nat.le_refl _⟩
  refine ⟨inOrder.wellFormed, inOrder.direct, offered.2, ?_⟩
  intro built held
  exact ⟨Nat.le_trans (inOrder.built held).1 offered.1, (inOrder.built held).2⟩

theorem invalidate (inOrder : InOrder checker) :
    InOrder { checker with cache := checker.cache.invalidate, unheard? := none } where
  wellFormed := Cache.WellFormed.of_move (.invalidate _) inOrder.wellFormed
  direct _ := rfl
  offered := Nat.le_refl _
  built held := ⟨Nat.le_trans (inOrder.built held).1 inOrder.offered, (inOrder.built held).2⟩

theorem step (inOrder : InOrder checker) (step : BoundStep) :
    InOrder (checker.step step).checker := by
  cases asks : step.asks with
  | true =>
      obtain ⟨handedOut, _, after⟩ := step_of_asks checker asks
      have asked := inOrder.found checker.fieldLookup_found
      rw [after]
      exact ⟨asked.wellFormed, asked.direct, asked.offered, asked.built⟩
  | false =>
      rcases step_of_not_asks checker asks with
        ⟨snapshots, grows, _, after⟩ | ⟨refusal?, _, after⟩ | ⟨_, after⟩
      · rw [after]
        exact inOrder.withSnapshots grows
      · rw [after]
        exact ⟨inOrder.wellFormed, inOrder.direct, inOrder.offered, inOrder.built⟩
      · rw [after]
        exact inOrder.invalidate

theorem run (inOrder : InOrder checker) (steps : List BoundStep) : InOrder (checker.run steps) := by
  induction steps generalizing checker with
  | nil => exact inOrder
  | cons step steps ih => exact ih (inOrder.step step)

theorem reached (table : VariableTable) (access : SourceAccess) (steps : List BoundStep) :
    InOrder (reached table access steps) :=
  (fresh table access).run steps

end InOrder

theorem Found.built (found : Found checker after result) (inOrder : InOrder checker)
    {former : BuiltLookup} (held : checker.built? = some former) :
    ∃ later, after.built? = some later ∧ former.SameOrLater later := by
  have kept : checker.obtain.checker.built? = some former := obtain_built.trans held
  cases found with
  | unobtained failed => exact ⟨former, kept, .refl former⟩
  | remembered known obtained => exact ⟨former, kept, .refl former⟩
  | unmade obtained unknown failed => exact ⟨former, kept, .refl former⟩
  | made obtained unknown made =>
      obtain ⟨snapshot, serial⟩ := inOrder.built held
      rw [← inOrder.obtained_eq_offered obtained] at snapshot
      exact ⟨_, rfl, .inr ⟨Nat.lt_of_le_of_ne snapshot (unknown former held), serial⟩⟩

theorem step_built (inOrder : InOrder checker) {former : BuiltLookup}
    (held : checker.built? = some former) (step : BoundStep) :
    ∃ later, (checker.step step).checker.built? = some later ∧ former.SameOrLater later := by
  cases asks : step.asks with
  | true =>
      obtain ⟨handedOut, _, after⟩ := step_of_asks checker asks
      rw [after]
      exact checker.fieldLookup_found.built inOrder held
  | false =>
      refine ⟨former, ?_, .refl former⟩
      rcases step_of_not_asks checker asks with
        ⟨_, _, _, after⟩ | ⟨_, _, after⟩ | ⟨_, after⟩
      all_goals rw [after]; exact held

theorem run_built (inOrder : InOrder checker) {former : BuiltLookup}
    (held : checker.built? = some former) (steps : List BoundStep) :
    ∃ later, (checker.run steps).built? = some later ∧ former.SameOrLater later := by
  induction steps generalizing checker former with
  | nil => exact ⟨former, held, .refl former⟩
  | cons step steps ih =>
      obtain ⟨next, nextHeld, nextLater⟩ := step_built inOrder held step
      obtain ⟨last, lastHeld, lastLater⟩ := ih (inOrder.step step) nextHeld
      exact ⟨last, lastHeld, nextLater.trans lastLater⟩

theorem step_handedOut (checker : BoundChecker) (step : BoundStep) :
    checker.handedOut <+: (checker.step step).checker.handedOut := by
  cases asks : step.asks with
  | true =>
      obtain ⟨handedOut, grows, after⟩ := step_of_asks checker asks
      rw [after]
      exact grows
  | false =>
      have kept : (checker.step step).checker.handedOut = checker.handedOut := by
        rcases step_of_not_asks checker asks with
          ⟨_, _, _, after⟩ | ⟨_, _, after⟩ | ⟨_, after⟩
        all_goals rw [after]
      exact kept ▸ List.prefix_refl _

theorem run_handedOut (checker : BoundChecker) (steps : List BoundStep) :
    checker.handedOut <+: (checker.run steps).handedOut := by
  induction steps generalizing checker with
  | nil => exact List.prefix_refl _
  | cons step steps ih => exact (step_handedOut checker step).trans (ih _)

/-- Only a step that extends a snapshot changes what one of them holds. -/
theorem step_snapshots (checker : BoundChecker) {step : BoundStep}
    (keeps : ∀ fields, step ≠ .extend fields) :
    checker.snapshots <+: (checker.step step).checker.snapshots := by
  cases asks : step.asks with
  | true =>
      obtain ⟨handedOut, _, after⟩ := step_of_asks checker asks
      rw [after]
      exact checker.fieldLookup_found.snapshots ▸ List.prefix_refl _
  | false =>
      cases step with
      | snapshot sources =>
          cases sources with
          | none => exact List.prefix_append _ _
          | some sources =>
              simp only [step, snapshotStep]
              cases FieldSource.readAll sources with
              | error error => exact List.prefix_refl _
              | ok fields => exact List.prefix_append _ _
      | extend fields => exact absurd rfl (keeps fields)
      | refuse refusal? => exact List.prefix_refl _
      | invalidate => exact List.prefix_refl _
      | lookup => cases asks
      | check query => cases asks

theorem run_snapshots (checker : BoundChecker) {steps : List BoundStep}
    (keep : ∀ fields, BoundStep.extend fields ∉ steps) :
    checker.snapshots <+: (checker.run steps).snapshots := by
  induction steps generalizing checker with
  | nil => exact List.prefix_refl _
  | cons step steps ih =>
      have first : ∀ fields, step ≠ .extend fields := by
        rintro fields rfl
        exact keep fields List.mem_cons_self
      exact (step_snapshots checker first).trans
        (ih _ fun fields member => keep fields (List.mem_cons_of_mem _ member))

theorem step_variableTable (checker : BoundChecker) (step : BoundStep) :
    (checker.step step).checker.variableTable = checker.variableTable := by
  cases asks : step.asks with
  | true =>
      obtain ⟨handedOut, _, after⟩ := step_of_asks checker asks
      rw [after]
      exact checker.fieldLookup_found.variableTable
  | false =>
      rcases step_of_not_asks checker asks with
        ⟨_, _, _, after⟩ | ⟨_, _, after⟩ | ⟨_, after⟩
      all_goals rw [after]

theorem step_access (checker : BoundChecker) (step : BoundStep) :
    (checker.step step).checker.access = checker.access := by
  cases asks : step.asks with
  | true =>
      obtain ⟨handedOut, _, after⟩ := step_of_asks checker asks
      rw [after]
      exact checker.fieldLookup_found.access_eq
  | false =>
      rcases step_of_not_asks checker asks with
        ⟨_, _, _, after⟩ | ⟨_, _, after⟩ | ⟨_, after⟩
      all_goals rw [after]

theorem run_variableTable (checker : BoundChecker) (steps : List BoundStep) :
    (checker.run steps).variableTable = checker.variableTable := by
  induction steps generalizing checker with
  | nil => rfl
  | cons step steps ih => rw [run_cons, ih, step_variableTable]

end BoundChecker

end WorkItemQuery
