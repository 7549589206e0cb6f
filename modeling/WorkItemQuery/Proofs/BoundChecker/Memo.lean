import Mathlib.Data.List.Infix
import WorkItemQuery.Proofs.BoundChecker.History

/-!
# Memoised checking

A bound checker checks with the lookup that a snapshot made when it was first obtained with contents
that make one. As long as no snapshot is extended after that, this is plain checking against what
the snapshot holds. Main statement: `memoised_checking_refines_plain`.
-/

namespace WorkItemQuery

/-- Checking a query with the lookup that could be had, if any. -/
def BoundResult.ofLookup (table : VariableTable) (query : Node) :
    Except BoundError FieldLookup → BoundResult
  | .error fault => .error fault
  | .ok known => .ofCheck (check ⟨known, table⟩ query)

/-- Checking a query against the fields of a snapshot, with no lookup at hand. -/
def plainCheck (table : VariableTable) (fields? : Option (List FieldDescriptor)) (query : Node) :
    BoundResult :=
  .ofLookup table query (plainLookup fields?)

/-- What a step that asks gives with a lookup. -/
def BoundStep.Gives (table : VariableTable) (lookup : FieldLookup) :
    BoundStep → BoundResult → Prop
  | .lookup, result => ∃ number, result = .lookup number lookup.keys
  | .check query, result => result = .ofCheck (WorkItemQuery.check ⟨lookup, table⟩ query)
  | _, _ => False

namespace BoundChecker

variable {checker after : BoundChecker} {table : VariableTable} {access : SourceAccess}
  {steps earlier more first : List BoundStep} {snapshot : Nat} {lookup : FieldLookup}

/-- The lookup that a step would use that asks now. -/
def usedLookup (checker : BoundChecker) : Except BoundError FieldLookup :=
  checker.fieldLookup.result.map (·.lookup)

/-- A step obtains a snapshot when what it holds makes a lookup. -/
structure Makes (table : VariableTable) (access : SourceAccess) (steps : List BoundStep)
    (snapshot : Nat) (earlier : List BoundStep) (lookup : FieldLookup) : Prop where
  asked : ∃ step : BoundStep, step.asks ∧ Occurs steps earlier step
  obtained : (reached table access earlier).obtain.result = .ok snapshot
  made : plainLookup ((reached table access earlier).fieldsOf? snapshot) = .ok lookup

/-- The first successful build for a snapshot, by the steps before it. -/
structure FirstBuild (table : VariableTable) (access : SourceAccess) (steps : List BoundStep)
    (snapshot : Nat) (first : List BoundStep) (lookup : FieldLookup) : Prop
    extends Makes table access steps snapshot first lookup where
  new : ∀ before other, ¬ Makes table access first snapshot before other

/-- No snapshot is changed any more once a lookup was built from it. -/
def Unmutated (table : VariableTable) (access : SourceAccess) (steps : List BoundStep) : Prop :=
  ∀ snapshot first lookup, FirstBuild table access steps snapshot first lookup →
    ∀ later, first <+: later → later <+: steps →
      (reached table access later).fieldsOf? snapshot =
        (reached table access first).fieldsOf? snapshot

/-- A step that asks for the lookup, obtains a snapshot and is given a number and the keys. -/
structure LooksUp (table : VariableTable) (access : SourceAccess) (steps earlier : List BoundStep)
    (snapshot number : Nat) (keys : List String) : Prop where
  occurs : Occurs steps earlier .lookup
  obtained : (reached table access earlier).obtain.result = .ok snapshot
  answered : ((reached table access earlier).step .lookup).result = .lookup number keys

theorem Makes.mono {before : List BoundStep}
    (makes : Makes table access steps snapshot before lookup) (grows : steps <+: more) :
    Makes table access more snapshot before lookup := by
  obtain ⟨step, asks, occurs⟩ := makes.asked
  exact ⟨⟨step, asks, occurs.mono grows⟩, makes.obtained, makes.made⟩

theorem FirstBuild.mono (build : FirstBuild table access steps snapshot first lookup)
    (grows : steps <+: more) : FirstBuild table access more snapshot first lookup :=
  ⟨build.toMakes.mono grows, build.new⟩

/-- Of two times at which a snapshot makes lookups the later one is not the first. -/
theorem FirstBuild.earliest (build : FirstBuild table access steps snapshot first lookup)
    {other : List BoundStep} {otherLookup : FieldLookup}
    (makes : Makes table access steps snapshot other otherLookup) : first <+: other := by
  obtain ⟨asked, _, occurs⟩ := build.asked
  obtain ⟨step, asks, otherOccurs⟩ := makes.asked
  have firstBefore : first <+: steps := (List.prefix_append first [asked]).trans occurs
  rcases List.prefix_or_prefix_of_prefix firstBefore otherOccurs with later | earlier
  · rcases List.prefix_concat_iff.mp later with same | before
    · exact absurd ⟨⟨step, asks, same ▸ List.prefix_refl _⟩, makes.obtained, makes.made⟩
        (build.new other otherLookup)
    · exact before
  · exact absurd ⟨⟨step, asks, earlier⟩, makes.obtained, makes.made⟩ (build.new other otherLookup)

theorem FirstBuild.unique (build : FirstBuild table access steps snapshot first lookup)
    {other : List BoundStep} {otherLookup : FieldLookup}
    (alsoBuild : FirstBuild table access steps snapshot other otherLookup) :
    first = other ∧ lookup = otherLookup := by
  have same : first = other :=
    (build.earliest alsoBuild.toMakes).eq_of_length_le (alsoBuild.earliest build.toMakes).length_le
  subst same
  exact ⟨rfl, Except.ok.inj (build.made.symm.trans alsoBuild.made)⟩

theorem FirstBuild.lookup_eq_iff (build : FirstBuild table access steps snapshot first lookup)
    {otherLookup : FieldLookup} :
    lookup = otherLookup ↔ ∃ other, FirstBuild table access steps snapshot other otherLookup := by
  constructor
  · rintro rfl
    exact ⟨first, build⟩
  · rintro ⟨other, alsoBuild⟩
    exact (build.unique alsoBuild).2

theorem Found.built_of_makes {result : Except BoundError BuiltLookup}
    (found : Found checker after result) (obtained : checker.obtain.result = .ok snapshot)
    (made : plainLookup (checker.fieldsOf? snapshot) = .ok lookup) :
    ∃ built, after.built? = some built ∧ built.snapshot = snapshot := by
  cases found with
  | unobtained failed => cases failed.symm.trans obtained
  | remembered known alsoObtained =>
      exact ⟨_, obtain_built.trans known, Except.ok.inj (alsoObtained.symm.trans obtained)⟩
  | unmade alsoObtained unknown failed =>
      obtain rfl := Except.ok.inj (alsoObtained.symm.trans obtained)
      cases failed.symm.trans made
  | made alsoObtained unknown alsoMade =>
      exact ⟨_, rfl, Except.ok.inj (alsoObtained.symm.trans obtained)⟩

/-- A snapshot that has made a lookup is remembered until a later one makes another. -/
theorem Makes.remembered {before : List BoundStep}
    (makes : Makes table access steps snapshot before lookup) :
    ∃ built, (reached table access steps).built? = some built ∧ snapshot ≤ built.snapshot := by
  obtain ⟨step, asks, later, rfl⟩ := makes.asked
  obtain ⟨handedOut, _, after⟩ := step_of_asks (reached table access before) asks
  obtain ⟨former, held, rfl⟩ :=
    (reached table access before).fieldLookup_found.built_of_makes makes.obtained makes.made
  have remembered : (reached table access (before ++ [step])).built? = some former := by
    rw [reached_concat, after]
    exact held
  obtain ⟨built, last, sameOrLater⟩ :=
    run_built (InOrder.reached table access (before ++ [step])) remembered later
  refine ⟨built, ?_, sameOrLater.snapshot_le⟩
  rw [reached_append]
  exact last

/-- A snapshot that is obtained but not remembered has made no lookup so far: the lookup at hand is
from an earlier one. -/
theorem not_makes_of_unknown
    (obtained : (reached table access earlier).obtain.result = .ok snapshot)
    (unknown : ∀ built, (reached table access earlier).built? = some built →
      built.snapshot ≠ snapshot) (before : List BoundStep) (other : FieldLookup) :
    ¬ Makes table access earlier snapshot before other := by
  intro makes
  have inOrder := InOrder.reached table access earlier
  obtain ⟨built, held, since⟩ := makes.remembered
  have until' := (inOrder.built held).1
  rw [← inOrder.obtained_eq_offered obtained] at until'
  exact unknown built held (Nat.le_antisymm until' since)

/-- The step that has to build for a snapshot is the first to do so. -/
theorem firstBuild_of_unknown {asked : BoundStep} (asks : asked.asks)
    (obtained : (reached table access earlier).obtain.result = .ok snapshot)
    (unknown : ∀ built, (reached table access earlier).built? = some built →
      built.snapshot ≠ snapshot)
    (made : plainLookup ((reached table access earlier).fieldsOf? snapshot) = .ok lookup) :
    FirstBuild table access (earlier ++ [asked]) snapshot earlier lookup where
  asked := ⟨asked, asks, List.prefix_refl _⟩
  obtained := obtained
  made := made
  new := not_makes_of_unknown obtained unknown

/-- The lookup at hand is from the first build for its snapshot. -/
theorem firstBuild_of_built (steps : List BoundStep) {built : BuiltLookup}
    (held : (reached table access steps).built? = some built) :
    ∃ first, FirstBuild table access steps built.snapshot first built.lookup := by
  induction steps using List.reverseRecOn generalizing built with
  | nil => cases held
  | append_singleton earlier last ih =>
      -- A lookup that was at hand before is from a build that the longer session has, too.
      have kept : (reached table access earlier).built? = some built →
          ∃ first,
            FirstBuild table access (earlier ++ [last]) built.snapshot first built.lookup := by
        intro held
        obtain ⟨first, build⟩ := ih held
        exact ⟨first, build.mono (List.prefix_append _ _)⟩
      rw [reached_concat] at held
      cases asks : last.asks with
      | false =>
          refine kept ?_
          rcases step_of_not_asks (reached table access earlier) asks with
            ⟨_, _, _, after⟩ | ⟨_, _, after⟩ | ⟨_, after⟩
          all_goals rw [after] at held; exact held
      | true =>
          obtain ⟨handedOut, _, after⟩ := step_of_asks (reached table access earlier) asks
          rw [after] at held
          change (reached table access earlier).fieldLookup.checker.built? = some built at held
          have found := (reached table access earlier).fieldLookup_found
          generalize (reached table access earlier).fieldLookup.checker = after,
            (reached table access earlier).fieldLookup.result = result at found held
          cases found with
          | unobtained failed => exact kept (obtain_built.symm.trans held)
          | remembered known obtained => exact kept (obtain_built.symm.trans held)
          | unmade obtained unknown failed => exact kept (obtain_built.symm.trans held)
          | made obtained unknown made =>
              obtain rfl := Option.some.inj held
              exact ⟨earlier, firstBuild_of_unknown asks obtained unknown made⟩

/-- Whoever obtains a snapshot uses the lookup of the first build for it, which may be this one. -/
theorem usedLookup_eq_ok_iff {asked : BoundStep} (asks : asked.asks)
    (obtained : (reached table access earlier).obtain.result = .ok snapshot) :
    (reached table access earlier).usedLookup = .ok lookup ↔
      ∃ first, FirstBuild table access (earlier ++ [asked]) snapshot first lookup := by
  have found := (reached table access earlier).fieldLookup_found
  rw [usedLookup]
  generalize (reached table access earlier).fieldLookup.checker = after,
    (reached table access earlier).fieldLookup.result = result at found ⊢
  cases found with
  | unobtained failed => cases failed.symm.trans obtained
  | @remembered built known alsoObtained =>
      obtain rfl := Except.ok.inj (alsoObtained.symm.trans obtained)
      obtain ⟨first, build⟩ := firstBuild_of_built earlier known
      rw [Except.map, Except.ok.injEq]
      exact (build.mono (List.prefix_append earlier [asked])).lookup_eq_iff
  | unmade alsoObtained unknown failed =>
      obtain rfl := Except.ok.inj (alsoObtained.symm.trans obtained)
      refine iff_of_false (fun used => nomatch used) ?_
      rintro ⟨first, build⟩
      obtain ⟨step, stepAsks, occurs⟩ := build.asked
      -- The first build is not this step, which fails, and had it been an earlier one, the lookup
      -- would be remembered.
      rcases List.prefix_concat_iff.mp occurs with same | before
      · obtain ⟨rfl, _⟩ := List.append_inj' same rfl
        cases failed.symm.trans build.made
      · exact not_makes_of_unknown obtained unknown first lookup
          ⟨⟨step, stepAsks, before⟩, build.obtained, build.made⟩
  | made alsoObtained unknown made =>
      obtain rfl := Except.ok.inj (alsoObtained.symm.trans obtained)
      rw [Except.map, Except.ok.injEq]
      exact (firstBuild_of_unknown asks obtained unknown made).lookup_eq_iff

theorem step_check_result (checker : BoundChecker) (query : Node) :
    (checker.step (.check query)).result =
      .ofLookup checker.variableTable query checker.usedLookup := by
  simp only [step, checkStep, usedLookup]
  cases checker.fieldLookup.result with
  | error error => rfl
  | ok built => rfl

theorem reached_variableTable : (reached table access steps).variableTable = table :=
  run_variableTable (fresh table access) steps

theorem gives_of_usedLookup {asked : BoundStep} (asks : asked.asks)
    (used : (reached table access earlier).usedLookup = .ok lookup) :
    asked.Gives table lookup ((reached table access earlier).step asked).result := by
  cases asked with
  | lookup =>
      simp only [BoundStep.Gives, step, lookupStep]
      rw [usedLookup] at used
      cases result : (reached table access earlier).fieldLookup.result with
      | error error => rw [result] at used; cases used
      | ok built =>
          rw [result] at used
          obtain rfl := Except.ok.inj used
          exact ⟨_, rfl⟩
  | check query =>
      rw [BoundStep.Gives, step_check_result, reached_variableTable, used]
      rfl
  | snapshot fields => cases asks
  | extend fields => cases asks
  | refuse refusal => cases asks
  | invalidate => cases asks

/-- A new lookup is built exactly by the steps that are the first to have one from a snapshot. -/
theorem builds_iff_firstBuild {asked : BoundStep} (asks : asked.asks) :
    (reached table access (earlier ++ [asked])).builds = (reached table access earlier).builds + 1 ↔
      ∃ snapshot lookup, FirstBuild table access (earlier ++ [asked]) snapshot earlier lookup := by
  obtain ⟨handedOut, _, after⟩ := step_of_asks (reached table access earlier) asks
  rw [reached_concat, after]
  change (reached table access earlier).fieldLookup.checker.builds = _ ↔ _
  have found := (reached table access earlier).fieldLookup_found
  generalize (reached table access earlier).fieldLookup.checker = after,
    (reached table access earlier).fieldLookup.result = result at found ⊢
  have unbuilt : (reached table access earlier).obtain.checker.builds ≠
      (reached table access earlier).builds + 1 := by
    rw [obtain_builds]
    omega
  cases found with
  | unobtained failed =>
      refine iff_of_false unbuilt ?_
      rintro ⟨snapshot, lookup, build⟩
      cases failed.symm.trans build.obtained
  | @remembered built known obtained =>
      refine iff_of_false unbuilt ?_
      rintro ⟨snapshot, lookup, build⟩
      obtain rfl := Except.ok.inj (obtained.symm.trans build.obtained)
      obtain ⟨first, formerBuild⟩ := firstBuild_of_built earlier known
      exact build.new first built.lookup formerBuild.toMakes
  | unmade obtained unknown failed =>
      refine iff_of_false unbuilt ?_
      rintro ⟨snapshot, lookup, build⟩
      obtain rfl := Except.ok.inj (obtained.symm.trans build.obtained)
      cases failed.symm.trans build.made
  | made obtained unknown made =>
      exact iff_of_true rfl ⟨_, _, firstBuild_of_unknown asks obtained unknown made⟩

/-- While no snapshot is changed after its lookup was built, the lookup at hand is as good as a new
one. -/
theorem Unmutated.usedLookup (unmutated : Unmutated table access steps) (within : earlier <+: steps)
    (obtained : (reached table access earlier).obtain.result = .ok snapshot) :
    (reached table access earlier).usedLookup =
      plainLookup ((reached table access earlier).fieldsOf? snapshot) := by
  have found := (reached table access earlier).fieldLookup_found
  rw [BoundChecker.usedLookup]
  generalize (reached table access earlier).fieldLookup.checker = after,
    (reached table access earlier).fieldLookup.result = result at found ⊢
  cases found with
  | unobtained failed => cases failed.symm.trans obtained
  | @remembered built known alsoObtained =>
      obtain rfl := Except.ok.inj (alsoObtained.symm.trans obtained)
      obtain ⟨first, build⟩ := firstBuild_of_built earlier known
      obtain ⟨step, _, occurs⟩ := build.asked
      have since : first <+: earlier := (List.prefix_append first [step]).trans occurs
      rw [unmutated _ first built.lookup (build.mono within) earlier since within, build.made]
      rfl
  | unmade alsoObtained unknown failed =>
      obtain rfl := Except.ok.inj (alsoObtained.symm.trans obtained)
      exact failed.symm
  | made alsoObtained unknown made =>
      obtain rfl := Except.ok.inj (alsoObtained.symm.trans obtained)
      exact made.symm

theorem fieldsOf?_of_made (made : plainLookup (checker.fieldsOf? snapshot) = .ok lookup) :
    ∃ fields, checker.snapshots[snapshot]? = some (some fields) := by
  cases held : checker.fieldsOf? snapshot with
  | none => rw [held] at made; cases made
  | some fields => exact ⟨fields, Option.join_eq_some_iff.mp held⟩

/-- Snapshots that are never extended are never changed. -/
theorem unmutated_of_not_extended (keep : ∀ fields, BoundStep.extend fields ∉ steps) :
    Unmutated table access steps := by
  intro snapshot first lookup build later since within
  obtain ⟨between, rfl⟩ := since
  obtain ⟨fields, held⟩ := fieldsOf?_of_made build.made
  have keepBetween : ∀ fields, BoundStep.extend fields ∉ between := fun fields member =>
    keep fields (within.subset (List.mem_append_right first member))
  obtain ⟨added, grown⟩ := run_snapshots (reached table access first) keepBetween
  obtain ⟨bounded, _⟩ := List.getElem?_eq_some_iff.mp held
  rw [reached_append, fieldsOf?, fieldsOf?, ← grown, List.getElem?_append_left bounded]

/-- The number that is handed out stands for the lookup that is at hand afterwards. -/
theorem LooksUp.built {number : Nat} {keys : List String}
    (looksUp : LooksUp table access steps earlier snapshot number keys) :
    ∃ built, (reached table access (earlier ++ [.lookup])).built? = some built ∧
      built.snapshot = snapshot ∧
      built.serial ∈ (reached table access (earlier ++ [.lookup])).handedOut ∧
      (reached table access (earlier ++ [.lookup])).handedOut.idxOf built.serial = number := by
  have answered := looksUp.answered
  rw [reached_concat]
  cases found : (reached table access earlier).fieldLookup.result with
  | error error =>
      simp only [step, lookupStep, found] at answered
      cases answered
  | ok built =>
      obtain ⟨obtained, held, member, given⟩ := step_lookup_of_ok found
      obtain ⟨rfl, -⟩ := BoundResult.lookup.inj (given.symm.trans answered)
      exact ⟨built, held, Except.ok.inj (obtained.symm.trans looksUp.obtained), member, rfl⟩

/-- Of two such steps, the later one is given the same number exactly if it obtains the same
snapshot. -/
theorem LooksUp.number_eq_iff {later : List BoundStep} {number laterNumber laterSnapshot : Nat}
    {keys laterKeys : List String}
    (looksUp : LooksUp table access steps earlier snapshot number keys)
    (again : LooksUp table access steps later laterSnapshot laterNumber laterKeys)
    (inTurn : earlier ++ [BoundStep.lookup] <+: later ++ [BoundStep.lookup]) :
    number = laterNumber ↔ snapshot = laterSnapshot := by
  obtain ⟨former, held, rfl, member, rfl⟩ := looksUp.built
  obtain ⟨latter, laterHeld, rfl, laterMember, rfl⟩ := again.built
  obtain ⟨between, same⟩ := inTurn
  have continued : reached table access (later ++ [.lookup]) =
      (reached table access (earlier ++ [.lookup])).run between := by
    rw [← same, reached_append]
  rw [continued] at laterHeld laterMember ⊢
  obtain ⟨last, lastHeld, sameOrLater⟩ := run_built (InOrder.reached table access _) held between
  obtain rfl := Option.some.inj (lastHeld.symm.trans laterHeld)
  obtain ⟨added, grown⟩ := run_handedOut (reached table access (earlier ++ [.lookup])) between
  -- Numbers stay: those handed out later are added at the end.
  have kept : ((reached table access (earlier ++ [.lookup])).run between).handedOut.idxOf
        former.serial =
      (reached table access (earlier ++ [.lookup])).handedOut.idxOf former.serial := by
    rw [← grown, List.idxOf_append_of_mem member]
  rw [← kept, ← sameOrLater.serial_eq_iff]
  refine List.idxOf_inj ?_
  rw [← grown]
  exact List.mem_append_left _ member

/-- A checker uses the lookup that a snapshot made when it first made one, builds it that one time,
and checks and answers with it. As long as no snapshot is changed after that, it checks as one does
that has no lookup at hand; and it tells lookups apart as their snapshots. -/
theorem memoised_checking_refines_plain (table : VariableTable) (access : SourceAccess)
    (steps : List BoundStep) :
    (∀ earlier asked snapshot lookup, asked.asks → Occurs steps earlier asked →
      (reached table access earlier).obtain.result = .ok snapshot →
      ((reached table access earlier).usedLookup = .ok lookup ↔
        ∃ first, FirstBuild table access (earlier ++ [asked]) snapshot first lookup) ∧
      ((reached table access earlier).usedLookup = .ok lookup →
        asked.Gives table lookup ((reached table access earlier).step asked).result)) ∧
    (∀ earlier asked, asked.asks → Occurs steps earlier asked →
      ((reached table access (earlier ++ [asked])).builds =
          (reached table access earlier).builds + 1 ↔
        ∃ snapshot lookup, FirstBuild table access (earlier ++ [asked]) snapshot earlier lookup)) ∧
    (Unmutated table access steps → ∀ earlier query snapshot,
      Occurs steps earlier (.check query) →
      (reached table access earlier).obtain.result = .ok snapshot →
      ((reached table access earlier).step (.check query)).result =
        plainCheck table ((reached table access earlier).fieldsOf? snapshot) query) ∧
    (∀ earlier later snapshot laterSnapshot number laterNumber keys laterKeys,
      LooksUp table access steps earlier snapshot number keys →
      LooksUp table access steps later laterSnapshot laterNumber laterKeys →
      (number = laterNumber ↔ snapshot = laterSnapshot)) := by
  refine ⟨?_, ?_, ?_, ?_⟩
  · intro earlier asked snapshot lookup asks occurs obtained
    exact ⟨usedLookup_eq_ok_iff asks obtained, gives_of_usedLookup asks⟩
  · intro earlier asked asks occurs
    exact builds_iff_firstBuild asks
  · intro unmutated earlier query snapshot occurs obtained
    have within : earlier <+: steps := (List.prefix_append _ _).trans occurs
    rw [step_check_result, reached_variableTable, unmutated.usedLookup within obtained, plainCheck]
  · intro earlier later snapshot laterSnapshot number laterNumber keys laterKeys looksUp again
    rcases List.prefix_or_prefix_of_prefix looksUp.occurs again.occurs with inTurn | inTurn
    · exact looksUp.number_eq_iff again inTurn
    · rw [eq_comm, again.number_eq_iff looksUp inTurn, eq_comm]

namespace TitleAdded

def title : FieldDescriptor where
  name := .text "Title"
  referenceName := .text "System.Title"
  declaredType := .known .string

/-- A condition on a field that is not known. -/
def query : Node :=
  .branch ⟨"condition", [.branch ⟨"field",
    [.leaf ⟨"IDENTIFIER", "Subject", ⟨none, none, none, none, none, none⟩⟩], .absent⟩], .absent⟩

def titleLookup : FieldLookup where
  entries := ⟨[("title", .typed .string), ("system.title", .typed .string)]⟩

def course : List BoundStep :=
  [.lookup, .snapshot (some [.described title]), .invalidate, .lookup, .check query, .lookup]

theorem unmutated : Unmutated .predefined .cached course :=
  unmutated_of_not_extended (by simp [course])

end TitleAdded

open TitleAdded in
theorem title_noticed_and_remembered :
    LooksUp .predefined .cached course [] 0 0 [] ∧
      LooksUp .predefined .cached course (course.take 3) 1 1 titleLookup.keys ∧
      (∀ earlier snapshot keys, LooksUp .predefined .cached course earlier snapshot 1 keys →
        snapshot = 1) ∧
      (∃ first,
        FirstBuild .predefined .cached (course.take 4 ++ [.check query]) 1 first titleLookup) ∧
      (reached .predefined .cached (course.take 5)).builds = 2 ∧
      ((reached .predefined .cached (course.take 4)).step (.check query)).result =
        plainCheck .predefined (some [title]) query := by
  have before : LooksUp .predefined .cached course [] 0 0 [] := ⟨⟨_, rfl⟩, rfl, rfl⟩
  have after : LooksUp .predefined .cached course (course.take 3) 1 1 titleLookup.keys :=
    ⟨⟨_, rfl⟩, rfl, rfl⟩
  have checked : Occurs course (course.take 4) (.check query) := ⟨_, rfl⟩
  have obtained : (reached .predefined .cached (course.take 4)).obtain.result = .ok 1 := rfl
  have used : (reached .predefined .cached (course.take 4)).usedLookup = .ok titleLookup := rfl
  obtain ⟨uses, _, plain, numbers⟩ := memoised_checking_refines_plain .predefined .cached course
  refine ⟨before, after, ?_, ?_, rfl, plain unmutated _ query 1 checked obtained⟩
  · intro earlier snapshot keys looksUp
    exact ((numbers _ _ _ _ _ _ _ _ after looksUp).mp rfl).symm
  · exact (uses _ _ 1 titleLookup rfl checked obtained).1.mp used

end BoundChecker

end WorkItemQuery
