import WorkItemQuery.Proofs.BoundChecker.Memo

/-!
# Failed lookups leave no trace

A checker with a direct source goes through a session, and through the same session without some of
the lookups that failed in it. All other steps give the same, after fewer fetches: a failed lookup
counts its fetch and changes nothing else. The source is free to do anything between two steps, and
to come back to a snapshot that it gave before. Main statement: `failed_lookups_leave_no_trace`.
-/

namespace WorkItemQuery

/-- What happens in a session: a step, or a change of the source, which then has any snapshots and
may refuse. Of the snapshots it gives the last, so with fewer of them it is back at an earlier one;
and what they hold may be something else than before. -/
inductive BoundEvent where
  | step (step : BoundStep)
  | source (snapshots : List (Option (List FieldDescriptor))) (refusal? : Option Refusal)

/-- An event of a session that may be deleted from it. -/
structure MarkedEvent where
  event : BoundEvent
  deleted : Bool

/-- The session with all its events. -/
def whole (marked : List MarkedEvent) : List BoundEvent :=
  marked.map (·.event)

/-- The session without the events that are deleted. -/
def spared (marked : List MarkedEvent) : List BoundEvent :=
  (marked.filter (!·.deleted)).map (·.event)

def deletions (marked : List MarkedEvent) : Nat :=
  marked.countP (·.deleted)

section Marks

variable (event : BoundEvent) (rest : List MarkedEvent)

@[simp] theorem spared_of_deleted : spared (⟨event, true⟩ :: rest) = spared rest := rfl

@[simp] theorem spared_of_kept : spared (⟨event, false⟩ :: rest) = event :: spared rest := rfl

@[simp] theorem deletions_of_deleted : deletions (⟨event, true⟩ :: rest) = deletions rest + 1 :=
  List.countP_cons_of_pos rfl

@[simp] theorem deletions_of_kept : deletions (⟨event, false⟩ :: rest) = deletions rest :=
  List.countP_cons_of_neg Bool.false_ne_true

theorem spared_append (earlier later : List MarkedEvent) :
    spared (earlier ++ later) = spared earlier ++ spared later := by
  simp [spared]

end Marks

namespace BoundChecker

variable {checker next : BoundChecker} {table : VariableTable} {event : BoundEvent}
  {marked : List MarkedEvent} {events : List BoundEvent} {built : BuiltLookup}
  {error : BoundError}

def happen (checker : BoundChecker) : BoundEvent → BoundTurn
  | .step step => checker.step step
  | .source snapshots refusal? => { checker with snapshots, refusal? }.quietly

def after (checker : BoundChecker) (events : List BoundEvent) : BoundChecker :=
  events.foldl (fun checker event => (checker.happen event).checker) checker

/-- The result of each event with the number of fetches after it. -/
def history (checker : BoundChecker) : List BoundEvent → List (BoundResult × Nat)
  | [] => []
  | event :: events =>
      let turn := checker.happen event
      (turn.result, turn.checker.fetches) :: history turn.checker events

/-- Nothing is deleted but lookups that fail in the whole session. -/
def OnlyFailuresDeleted (checker : BoundChecker) : List MarkedEvent → Prop
  | [] => True
  | first :: rest =>
      (first.deleted = true →
        first.event = .step .lookup ∧ ∃ error, (checker.step .lookup).result = .error error) ∧
      OnlyFailuresDeleted (checker.happen first.event).checker rest

/-- Whoever asks gets no lookup or is given the snapshot. -/
def OnlyObtains (snapshot : Nat) (checker : BoundChecker) : List BoundEvent → Prop
  | [] => True
  | event :: events =>
      (∀ asked, event = .step asked → asked.asks →
        (∃ error, checker.fieldLookup.result = .error error) ∨
          checker.obtain.result = .ok snapshot) ∧
      OnlyObtains snapshot (checker.happen event).checker events

theorem after_append (first second : List BoundEvent) :
    checker.after (first ++ second) = (checker.after first).after second :=
  List.foldl_append

theorem history_getElem? (checker : BoundChecker) (earlier later : List BoundEvent)
    (event : BoundEvent) :
    (checker.history (earlier ++ event :: later))[earlier.length]? =
      some (((checker.after earlier).happen event).result,
        ((checker.after earlier).happen event).checker.fetches) := by
  induction earlier generalizing checker with
  | nil => rfl
  | cons first earlier ih => exact ih (checker.happen first).checker

/-- Where the source changes by steps only, this is the session of these steps. -/
theorem history_of_steps (checker : BoundChecker) (steps : List BoundStep) :
    checker.history (steps.map .step) = (checker.session steps).result := by
  induction steps generalizing checker with
  | nil => rfl
  | cons step steps ih => exact congrArg (_ :: ·) (ih (checker.step step).checker)

section Counting

/-- The checker as it would be after more fetches. -/
def counting (checker : BoundChecker) (more : Nat) : BoundChecker :=
  { checker with fetches := checker.fetches + more }

theorem withSource_counting (kept : next.withSource checker = next) (more : Nat) :
    next.withSource (checker.counting more) = next.counting more :=
  congrArg (·.counting more) kept

theorem lookupFor_counting (checker : BoundChecker) (snapshot more : Nat) :
    (checker.counting more).lookupFor snapshot =
      { checker.lookupFor snapshot with
        checker := (checker.lookupFor snapshot).checker.counting more } := by
  have kept : (checker.lookupFor snapshot).checker.withSource checker =
      (checker.lookupFor snapshot).checker := by
    obtain ⟨built?, builds, after⟩ := checker.lookupFor_checker snapshot
    rw [after]
    rfl
  rw [← withSource_counting kept]
  exact lookupFor_withSource checker (checker.counting more) snapshot

theorem handOut_counting (checker : BoundChecker) (serial more : Nat) :
    (checker.counting more).handOut serial = (checker.handOut serial).counting more := by
  have kept : (checker.handOut serial).withSource checker = checker.handOut serial := by
    obtain ⟨handedOut, after⟩ := checker.handOut_checker serial
    rw [after]
    rfl
  rw [← withSource_counting kept]
  exact handOut_withSource checker (checker.counting more) serial

/-- A step that neither asks nor invalidates keeps all that belongs to asking the source. -/
theorem step_counting_of_quiet (step : BoundStep) (quiet : step.asks = false)
    (kept : step ≠ .invalidate) (more : Nat) :
    (checker.counting more).step step =
      { checker.step step with checker := (checker.step step).checker.counting more } := by
  have unmoved : (checker.step step).checker.withSource checker = (checker.step step).checker := by
    rcases step_of_not_asks checker quiet with ⟨_, _, _, after⟩ | ⟨_, _, after⟩ | ⟨same, _⟩
    · rw [after]
      rfl
    · rw [after]
      rfl
    · exact absurd same kept
  rw [← withSource_counting unmoved]
  exact step_withSource checker (checker.counting more) quiet kept

variable (direct : checker.access = .direct)

include direct

theorem obtain_counting (more : Nat) :
    (checker.counting more).obtain =
      { checker.obtain with checker := checker.obtain.checker.counting more } := by
  have alsoDirect : (checker.counting more).access = .direct := direct
  rw [obtain_of_direct direct, obtain_of_direct alsoDirect]
  simp only [obtainDirect, counting, Nat.add_right_comm]
  rfl

theorem fieldLookup_counting (more : Nat) :
    (checker.counting more).fieldLookup =
      { checker.fieldLookup with checker := checker.fieldLookup.checker.counting more } := by
  simp only [fieldLookup, obtain_counting direct]
  cases checker.obtain.result with
  | error error => rfl
  | ok snapshot => simp only [lookupFor_counting]

theorem step_counting (step : BoundStep) (more : Nat) :
    (checker.counting more).step step =
      { checker.step step with checker := (checker.step step).checker.counting more } := by
  cases step with
  | snapshot sources => exact step_counting_of_quiet (.snapshot sources) rfl nofun more
  | extend sources => exact step_counting_of_quiet (.extend sources) rfl nofun more
  | refuse refusal? => exact step_counting_of_quiet (.refuse refusal?) rfl nofun more
  | invalidate => rfl
  | lookup =>
      simp only [step, lookupStep, fieldLookup_counting direct]
      cases checker.fieldLookup.result with
      | error error => rfl
      | ok built =>
          simp only [handOut_counting]
          rfl
  | check query =>
      simp only [step, checkStep, fieldLookup_counting direct]
      cases checker.fieldLookup.result with
      | error error => rfl
      | ok built => rfl

theorem happen_counting (event : BoundEvent) (more : Nat) :
    (checker.counting more).happen event =
      { checker.happen event with checker := (checker.happen event).checker.counting more } := by
  cases event with
  | step step => exact step_counting direct step more
  | source snapshots refusal? => rfl

/-- A lookup that fails counts its fetch and leaves everything else as it was. -/
theorem step_lookup_of_error (failed : (checker.step .lookup).result = .error error) :
    (checker.step .lookup).checker = checker.counting 1 := by
  have asked : checker.obtain.checker = checker.counting 1 := by
    rw [obtain_of_direct direct]
    rfl
  have found := checker.fieldLookup_found
  simp only [step, lookupStep] at failed ⊢
  generalize checker.fieldLookup.checker = next,
    checker.fieldLookup.result = result at found failed ⊢
  cases found with
  | unobtained _ => exact asked
  | remembered _ _ => cases failed
  | unmade _ _ _ => exact asked
  | made _ _ _ => cases failed

end Counting

section Deletion

theorem happen_access (checker : BoundChecker) (event : BoundEvent) :
    (checker.happen event).checker.access = checker.access := by
  cases event with
  | step step => exact step_access checker step
  | source snapshots refusal? => rfl

theorem after_access (checker : BoundChecker) (events : List BoundEvent) :
    (checker.after events).access = checker.access := by
  induction events generalizing checker with
  | nil => rfl
  | cons event events ih => exact (ih _).trans (happen_access checker event)

theorem OnlyFailuresDeleted.of_append {earlier later : List MarkedEvent}
    (only : OnlyFailuresDeleted checker (earlier ++ later)) :
    OnlyFailuresDeleted checker earlier := by
  induction earlier generalizing checker with
  | nil => trivial
  | cons first earlier ih => exact ⟨only.1, ih only.2⟩

/-- The sessions with and without the deleted events come to the same checker, but for the number of
fetches. -/
theorem after_whole (direct : checker.access = .direct) {gone : Nat}
    (only : OnlyFailuresDeleted (checker.counting gone) marked) :
    (checker.counting gone).after (whole marked) =
      (checker.after (spared marked)).counting (gone + deletions marked) := by
  -- Along the session, the one checker is ahead of the other by the fetches of what is gone so far.
  induction marked generalizing checker gone with
  | nil => rfl
  | cons first rest ih =>
      obtain ⟨event, deleted⟩ := first
      obtain ⟨here, later⟩ := only
      cases deleted with
      | true =>
          obtain ⟨rfl, error, failed⟩ := here rfl
          have left : ((checker.counting gone).happen (.step .lookup)).checker =
              checker.counting (gone + 1) := step_lookup_of_error direct failed
          calc (checker.counting gone).after (whole (⟨.step .lookup, true⟩ :: rest))
            _ = (checker.counting (gone + 1)).after (whole rest) :=
                congrArg (·.after (whole rest)) left
            _ = (checker.after (spared rest)).counting (gone + 1 + deletions rest) :=
                ih direct (left ▸ later)
            _ = (checker.after (spared (⟨.step .lookup, true⟩ :: rest))).counting
                  (gone + deletions (⟨.step .lookup, true⟩ :: rest)) := by
                rw [spared_of_deleted, deletions_of_deleted, Nat.add_right_comm, Nat.add_assoc]
      | false =>
          have same : ((checker.counting gone).happen event).checker =
              (checker.happen event).checker.counting gone := by
            rw [happen_counting direct]
          have alsoDirect : (checker.happen event).checker.access = .direct :=
            (happen_access checker event).trans direct
          calc (checker.counting gone).after (whole (⟨event, false⟩ :: rest))
            _ = ((checker.happen event).checker.counting gone).after (whole rest) :=
                congrArg (·.after (whole rest)) same
            _ = ((checker.happen event).checker.after (spared rest)).counting
                  (gone + deletions rest) := ih alsoDirect (same ▸ later)
            _ = (checker.after (spared (⟨event, false⟩ :: rest))).counting
                  (gone + deletions (⟨event, false⟩ :: rest)) := by
                rw [spared_of_kept, deletions_of_kept]
                rfl

/-- An event that is kept gives the same in both sessions. -/
theorem history_of_kept (direct : checker.access = .direct) {earlier later : List MarkedEvent}
    (only : OnlyFailuresDeleted checker (earlier ++ ⟨event, false⟩ :: later)) :
    ∃ result fetches,
      (checker.history (whole (earlier ++ ⟨event, false⟩ :: later)))[earlier.length]? =
          some (result, fetches + deletions earlier) ∧
        (checker.history (spared (earlier ++ ⟨event, false⟩ :: later)))[(spared earlier).length]? =
          some (result, fetches) := by
  have alsoDirect : (checker.after (spared earlier)).access = .direct :=
    (after_access checker _).trans direct
  have wholeSplit : whole (earlier ++ ⟨event, false⟩ :: later) =
      whole earlier ++ event :: whole later := List.map_append
  have sparedSplit : spared (earlier ++ ⟨event, false⟩ :: later) =
      spared earlier ++ event :: spared later := spared_append _ _
  have even : earlier.length = (whole earlier).length := (List.length_map _).symm
  have same : checker.after (whole earlier) =
      (checker.after (spared earlier)).counting (deletions earlier) := by
    have uncounted : OnlyFailuresDeleted (checker.counting 0) earlier := only.of_append
    rw [← Nat.zero_add (deletions earlier)]
    exact after_whole direct uncounted
  refine ⟨_, _, ?_, by rw [sparedSplit, history_getElem?]⟩
  rw [wholeSplit, even, history_getElem?, same, happen_counting alsoDirect]
  rfl

end Deletion

section Remembering

/-- What is remembered stays so unless another snapshot has a lookup. -/
theorem Found.built_kept {result : Except BoundError BuiltLookup}
    (found : Found checker next result) (held : checker.built? = some built)
    (loyal : (∃ error, result = .error error) ∨ checker.obtain.result = .ok built.snapshot) :
    next.built? = some built := by
  cases found with
  | unobtained _ => exact obtain_built.trans held
  | remembered _ _ => exact obtain_built.trans held
  | unmade _ _ _ => exact obtain_built.trans held
  | made obtained unknown _ =>
      rcases loyal with ⟨error, failed⟩ | same
      · cases failed
      · exact absurd (Except.ok.inj (same.symm.trans obtained)) (unknown built held)

theorem happen_built (held : checker.built? = some built)
    (loyal : ∀ asked, event = .step asked → asked.asks →
      (∃ error, checker.fieldLookup.result = .error error) ∨
        checker.obtain.result = .ok built.snapshot) :
    (checker.happen event).checker.built? = some built := by
  cases event with
  | source snapshots refusal? => exact held
  | step step =>
      change (checker.step step).checker.built? = some built
      cases asks : step.asks with
      | false =>
          rcases step_of_not_asks checker asks with
            ⟨_, _, _, after⟩ | ⟨_, _, after⟩ | ⟨_, after⟩
          all_goals rw [after]; exact held
      | true =>
          obtain ⟨handedOut, _, after⟩ := step_of_asks checker asks
          rw [after]
          exact checker.fieldLookup_found.built_kept held (loyal step rfl asks)

theorem after_built (held : checker.built? = some built)
    (loyal : OnlyObtains built.snapshot checker events) :
    (checker.after events).built? = some built := by
  induction events generalizing checker with
  | nil => exact held
  | cons event events ih => exact ih (happen_built held loyal.1) loyal.2

theorem after_handedOut (checker : BoundChecker) (events : List BoundEvent) :
    checker.handedOut <+: (checker.after events).handedOut := by
  induction events generalizing checker with
  | nil => exact List.prefix_refl _
  | cons event events ih =>
      have first : checker.handedOut <+: (checker.happen event).checker.handedOut := by
        cases event with
        | step step => exact step_handedOut checker step
        | source snapshots refusal? => exact List.prefix_refl _
      exact first.trans (ih _)

theorem built_of_asked {asked : BoundStep} (asks : asked.asks)
    (found : checker.fieldLookup.result = .ok built) :
    (checker.step asked).checker.built? = some built := by
  have how := checker.fieldLookup_found
  rw [found] at how
  obtain ⟨handedOut, _, after⟩ := step_of_asks checker asks
  rw [after]
  exact how.built_of_ok.2

/-- A snapshot that is obtained again still has the lookup that was found for it, as long as no
other snapshot had one in the meantime. -/
theorem found_again {asked : BoundStep} (asks : asked.asks)
    (found : checker.fieldLookup.result = .ok built)
    (loyal : OnlyObtains built.snapshot (checker.step asked).checker events)
    (obtained : ((checker.step asked).checker.after events).obtain.result = .ok built.snapshot) :
    ((checker.step asked).checker.after events).fieldLookup.result = .ok built :=
  fieldLookup_of_known (after_built (built_of_asked asks found) loyal) obtained

/-- A lookup that is found twice has one number. -/
theorem numbered_again (found : checker.fieldLookup.result = .ok built)
    (again : ((checker.step .lookup).checker.after events).fieldLookup.result = .ok built) :
    (((checker.step .lookup).checker.after events).step .lookup).result =
      (checker.step .lookup).result := by
  obtain ⟨-, -, member, given⟩ := step_lookup_of_ok found
  obtain ⟨-, -, -, givenAgain⟩ := step_lookup_of_ok again
  obtain ⟨added, grown⟩ := (after_handedOut (checker.step .lookup).checker events).trans
    (step_handedOut _ .lookup)
  rw [given, givenAgain, ← grown, List.idxOf_append_of_mem member]

end Remembering

/-- Of a session with a direct source any lookups that fail can be deleted: all other events have
the results that they had, and the numbers of fetches are lower by the numbers of lookups deleted
before. And whoever obtains the snapshot of the last successful build again, finds the very same
lookup, whatever failed in the meantime and whatever has become of the snapshot. -/
theorem failed_lookups_leave_no_trace (table : VariableTable) :
    (∀ steps : List BoundStep, (fresh table .direct).history (steps.map .step) =
      ((fresh table .direct).session steps).result) ∧
    (∀ marked, OnlyFailuresDeleted (fresh table .direct) marked →
      ∀ earlier event later, marked = earlier ++ ⟨event, false⟩ :: later →
        ∃ result fetches,
          ((fresh table .direct).history (whole marked))[earlier.length]? =
            some (result, fetches + deletions earlier) ∧
          ((fresh table .direct).history (spared marked))[(spared earlier).length]? =
            some (result, fetches)) ∧
    (∀ first asked between built, asked.asks →
      ((fresh table .direct).after first).fieldLookup.result = .ok built →
      OnlyObtains built.snapshot (((fresh table .direct).after first).step asked).checker between →
      ((fresh table .direct).after (first ++ .step asked :: between)).obtain.result =
        .ok built.snapshot →
      ((fresh table .direct).after (first ++ .step asked :: between)).fieldLookup.result =
          .ok built ∧
        (asked = .lookup →
          (((fresh table .direct).after (first ++ .step asked :: between)).step .lookup).result =
            (((fresh table .direct).after first).step .lookup).result)) := by
  refine ⟨history_of_steps _, ?_, ?_⟩
  · rintro marked only earlier event later rfl
    exact history_of_kept rfl only
  · intro first asked between built asks found loyal obtained
    rw [after_append] at obtained ⊢
    have again := found_again asks found loyal obtained
    refine ⟨again, ?_⟩
    rintro rfl
    exact numbered_again found again

namespace TitleAgain

open TitleAdded

/-- A field whose name is a number, so that no lookup can be built with it. -/
def numbered : FieldDescriptor :=
  { title with name := .int 5 }

def start : BoundChecker :=
  fresh .predefined .direct

def titled : List MarkedEvent :=
  [⟨.step (.snapshot (some [.described title])), false⟩]

/-- A refusal, a missing snapshot and one that makes no lookup; and then the source is back at the
first, to which the bad field has been added. -/
def mishaps : List MarkedEvent :=
  [⟨.step (.refuse (some (.failed (.raised .timeout "too late")))), false⟩,
   ⟨.step .lookup, true⟩,
   ⟨.step (.refuse none), false⟩,
   ⟨.step (.snapshot none), false⟩,
   ⟨.step .lookup, true⟩,
   ⟨.step (.snapshot (some [.described numbered])), false⟩,
   ⟨.step .lookup, true⟩,
   ⟨.source [some [], some [title, numbered]] none, false⟩]

def earlier : List MarkedEvent :=
  titled ++ ⟨.step .lookup, false⟩ :: mishaps

def course : List MarkedEvent :=
  earlier ++ [⟨.step .lookup, false⟩]

def titleBuilt : BuiltLookup where
  snapshot := 1
  serial := 0
  lookup := titleLookup

theorem only_failures : OnlyFailuresDeleted start course :=
  ⟨nofun, nofun, nofun, fun _ => ⟨rfl, _, rfl⟩, nofun, nofun, fun _ => ⟨rfl, _, rfl⟩, nofun,
    fun _ => ⟨rfl, _, rfl⟩, nofun, nofun, trivial⟩

theorem only_obtains :
    OnlyObtains 1 ((start.after (whole titled)).step .lookup).checker (whole mishaps) := by
  refine ⟨nofun, ?_, nofun, nofun, ?_, nofun, ?_, nofun, trivial⟩
  all_goals
    rintro asked ⟨⟩ -
    exact .inl ⟨_, rfl⟩

end TitleAgain

open TitleAdded TitleAgain in
theorem title_found_again_after_failures :
    OnlyFailuresDeleted start course ∧
      (start.history (whole course))[10]? = some (.lookup 0 titleLookup.keys, 5) ∧
      (start.history (spared course))[7]? = some (.lookup 0 titleLookup.keys, 2) ∧
      (start.after (whole titled)).fieldLookup.result = .ok titleBuilt ∧
      (start.after (whole earlier)).fieldLookup.result = .ok titleBuilt := by
  obtain ⟨-, kept, remembered⟩ := failed_lookups_leave_no_trace .predefined
  obtain ⟨result, fetches, inWhole, inSpared⟩ :=
    kept course only_failures earlier (.step .lookup) [] rfl
  have last : (start.history (whole course))[10]? = some (.lookup 0 titleLookup.keys, 5) := rfl
  have found : (start.after (whole titled)).fieldLookup.result = .ok titleBuilt := rfl
  obtain ⟨again, -⟩ := remembered (whole titled) .lookup (whole mishaps) titleBuilt rfl found
    only_obtains rfl
  refine ⟨only_failures, last, ?_, found, again⟩
  cases inWhole.symm.trans last
  exact inSpared

end BoundChecker

end WorkItemQuery
