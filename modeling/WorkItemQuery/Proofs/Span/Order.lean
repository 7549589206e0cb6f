import WorkItemQuery.Span

/-!
# The order of spans

Two spans have an order if they are equal or the first positions in which they differ are both
known; this order is transitive where it is defined. Spans that start at different known positions
are ordered by their starts.
-/

namespace WorkItemQuery.Span

theorem comparePositions?_of_eq (position : Option Int) (lefts rights : List (Option Int)) :
    comparePositions? (position :: lefts) (position :: rights) =
      comparePositions? lefts rights := by
  rw [comparePositions?.eq_def]
  exact if_pos rfl

theorem comparePositions?_of_ne {left right : Int} (different : left ≠ right)
    (lefts rights : List (Option Int)) :
    comparePositions? (some left :: lefts) (some right :: rights) = some (compare left right) := by
  rw [comparePositions?.eq_def]
  exact if_neg (by simpa using different)

theorem comparePositions?_self (positions : List (Option Int)) :
    comparePositions? positions positions = some .eq := by
  induction positions with
  | nil => rfl
  | cons position rest ih => rw [comparePositions?_of_eq, ih]

/-- The first positions in which two lists differ. -/
def FirstDiffer (lefts rights : List (Option Int)) (left right : Option Int) : Prop :=
  left ≠ right ∧ ∃ shared leftRest rightRest,
    lefts = shared ++ left :: leftRest ∧ rights = shared ++ right :: rightRest

/-- Two spans have an order if they are equal or the first positions that differ are both known. -/
def Comparable (left right : Span) : Prop :=
  left = right ∨ ∃ first second : Int,
    FirstDiffer left.positions right.positions (some first) (some second)

/-- The first positions that differ are both known, and that of the one span is smaller. -/
def Precedes (left right : Span) : Prop :=
  ∃ first second : Int, first < second ∧
    FirstDiffer left.positions right.positions (some first) (some second)

theorem FirstDiffer.symm {lefts rights : List (Option Int)} {left right : Option Int}
    (differ : FirstDiffer lefts rights left right) : FirstDiffer rights lefts right left := by
  obtain ⟨different, shared, leftRest, rightRest, here, there⟩ := differ
  exact ⟨different.symm, shared, rightRest, leftRest, there, here⟩

theorem FirstDiffer.cons {lefts rights : List (Option Int)} {left right : Option Int}
    (differ : FirstDiffer lefts rights left right) (position : Option Int) :
    FirstDiffer (position :: lefts) (position :: rights) left right := by
  obtain ⟨different, shared, leftRest, rightRest, rfl, rfl⟩ := differ
  exact ⟨different, position :: shared, leftRest, rightRest, rfl, rfl⟩

theorem FirstDiffer.here {left right : Option Int} (different : left ≠ right)
    (lefts rights : List (Option Int)) :
    FirstDiffer (left :: lefts) (right :: rights) left right :=
  ⟨different, [], lefts, rights, rfl, rfl⟩

theorem eq_or_firstDiffer {lefts rights : List (Option Int)}
    (even : lefts.length = rights.length) :
    lefts = rights ∨ ∃ left right, FirstDiffer lefts rights left right := by
  induction lefts generalizing rights with
  | nil => exact .inl (List.length_eq_zero_iff.mp even.symm).symm
  | cons left lefts ih =>
      cases rights with
      | nil => cases even
      | cons right rights =>
          by_cases same : left = right
          · subst same
            rcases ih (Nat.succ.inj even) with rfl | ⟨first, second, differ⟩
            · exact .inl rfl
            · exact .inr ⟨first, second, differ.cons left⟩
          · exact .inr ⟨left, right, .here same lefts rights⟩

theorem comparePositions?_of_firstDiffer {lefts rights : List (Option Int)}
    {left right : Option Int} (differ : FirstDiffer lefts rights left right) :
    comparePositions? lefts rights = comparePositions? [left] [right] := by
  obtain ⟨different, shared, leftRest, rightRest, rfl, rfl⟩ := differ
  induction shared with
  | nil => simp [comparePositions?, different]
  | cons position shared ih => rw [List.cons_append, List.cons_append, comparePositions?_of_eq, ih]

theorem FirstDiffer.trans {firsts seconds thirds : List (Option Int)} {first second next last : Int}
    (differ : FirstDiffer firsts seconds (some first) (some second))
    (laterDiffer : FirstDiffer seconds thirds (some next) (some last)) (below : first < second)
    (laterBelow : next < last) :
    ∃ lower upper : Int, lower < upper ∧ FirstDiffer firsts thirds (some lower) (some upper) := by
  obtain ⟨different, shared, firstRest, secondRest, rfl, rfl⟩ := differ
  obtain ⟨laterDifferent, laterShared, nextRest, thirdRest, split, rfl⟩ := laterDiffer
  induction shared generalizing laterShared with
  | nil =>
      cases laterShared with
      | nil =>
          obtain ⟨rfl, -⟩ : second = next ∧ secondRest = nextRest := by simpa using split
          have apart : first < last := Int.lt_trans below laterBelow
          exact ⟨first, last, apart, .here (by simpa using Int.ne_of_lt apart) _ _⟩
      | cons position laterShared =>
          obtain ⟨rfl, -⟩ := List.cons.inj split
          exact ⟨first, second, below, .here different _ _⟩
  | cons position shared ih =>
      cases laterShared with
      | nil =>
          obtain ⟨rfl, -⟩ := List.cons.inj split
          exact ⟨next, last, laterBelow, .here laterDifferent _ _⟩
      | cons other laterShared =>
          obtain ⟨rfl, rest⟩ := List.cons.inj split
          obtain ⟨lower, upper, apart, differ⟩ := ih laterShared rest
          exact ⟨lower, upper, apart, differ.cons position⟩

variable {left right first second third : Span}

theorem positions_injective (same : left.positions = right.positions) : left = right := by
  cases left
  cases right
  simpa [positions] using same

theorem Precedes.trans (earlier : first.Precedes second) (later : second.Precedes third) :
    first.Precedes third := by
  obtain ⟨_, _, below, differ⟩ := earlier
  obtain ⟨_, _, laterBelow, laterDiffer⟩ := later
  exact differ.trans laterDiffer below laterBelow

theorem Precedes.compare?_eq (precedes : left.Precedes right) : compare? left right = some .lt := by
  obtain ⟨lower, upper, below, differ⟩ := precedes
  rw [compare?, comparePositions?_of_firstDiffer differ,
    comparePositions?_of_ne (Int.ne_of_lt below), Int.compare_eq_lt.mpr below]

theorem Precedes.compare?_swap (precedes : left.Precedes right) :
    compare? right left = some .gt := by
  obtain ⟨lower, upper, below, differ⟩ := precedes
  rw [compare?, comparePositions?_of_firstDiffer differ.symm,
    comparePositions?_of_ne (Int.ne_of_gt below), Int.compare_eq_gt.mpr below]

theorem compare?_self (span : Span) : compare? span span = some .eq :=
  comparePositions?_self span.positions

theorem comparable_iff : left.Comparable right ↔
    left.Precedes right ∨ left = right ∨ right.Precedes left := by
  constructor
  · rintro (same | ⟨lower, upper, differ⟩)
    · exact .inr (.inl same)
    · rcases Int.lt_or_gt_of_ne fun same => differ.1 (congrArg some same) with below | above
      · exact .inl ⟨lower, upper, below, differ⟩
      · exact .inr (.inr ⟨upper, lower, above, differ.symm⟩)
  · rintro (⟨lower, upper, _, differ⟩ | same | ⟨lower, upper, _, differ⟩)
    · exact .inr ⟨lower, upper, differ⟩
    · exact .inl same
    · exact .inr ⟨upper, lower, differ.symm⟩

theorem Precedes.irrefl (span : Span) : ¬ span.Precedes span := by
  intro before
  cases before.compare?_eq.symm.trans (compare?_self span)

theorem compare?_of_incomparable (incomparable : ¬ left.Comparable right) :
    compare? left right = none := by
  have even : left.positions.length = right.positions.length := rfl
  rcases eq_or_firstDiffer even with same | ⟨lower, upper, differ⟩
  · exact absurd (.inl (positions_injective same)) incomparable
  · rw [compare?, comparePositions?_of_firstDiffer differ]
    cases lower with
    | none => simp [comparePositions?, differ.1]
    | some lower =>
        cases upper with
        | none => simp [comparePositions?]
        | some upper => exact absurd (.inr ⟨lower, upper, differ⟩) incomparable

/-- What comparing two spans comes to, by how they stand to each other. -/
inductive Compared (left right : Span) : Option Ordering → Prop where
  | before (precedes : left.Precedes right) : Compared left right (some .lt)
  | same (equal : left = right) : Compared left right (some .eq)
  | after (precedes : right.Precedes left) : Compared left right (some .gt)
  | unordered (incomparable : ¬ left.Comparable right) : Compared left right none

theorem compare?_compared (left right : Span) : Compared left right (compare? left right) := by
  by_cases comparable : left.Comparable right
  · rcases comparable_iff.mp comparable with before | rfl | after
    · rw [before.compare?_eq]
      exact .before before
    · rw [compare?_self]
      exact .same rfl
    · rw [after.compare?_swap]
      exact .after after
  · rw [compare?_of_incomparable comparable]
    exact .unordered comparable

theorem compare?_eq_lt_iff : compare? left right = some .lt ↔ left.Precedes right := by
  refine ⟨fun compared => ?_, Precedes.compare?_eq⟩
  have stand := compare?_compared left right
  rw [compared] at stand
  cases stand with
  | before precedes => exact precedes

theorem compare?_eq_eq_iff : compare? left right = some .eq ↔ left = right := by
  refine ⟨fun compared => ?_, fun same => same ▸ compare?_self left⟩
  have stand := compare?_compared left right
  rw [compared] at stand
  cases stand with
  | same equal => exact equal

theorem compare?_eq_none_iff : compare? left right = none ↔ ¬ left.Comparable right := by
  refine ⟨fun unordered => ?_, compare?_of_incomparable⟩
  have stand := compare?_compared left right
  rw [unordered] at stand
  cases stand with
  | unordered incomparable => exact incomparable

theorem lt?_eq_true_iff : left.lt? right = some true ↔ left.Precedes right := by
  rw [← compare?_eq_lt_iff, lt?, Option.map_eq_some_iff]
  constructor
  · rintro ⟨order, compared, less⟩
    cases order with
    | lt => exact compared
    | eq => cases less
    | gt => cases less
  · intro compared
    exact ⟨.lt, compared, rfl⟩

theorem le?_eq_true_iff : left.le? right = some true ↔ left = right ∨ left.Precedes right := by
  rw [← compare?_eq_lt_iff, ← compare?_eq_eq_iff, le?, Option.map_eq_some_iff]
  constructor
  · rintro ⟨order, compared, atMost⟩
    cases order with
    | lt => exact .inr compared
    | eq => exact .inl compared
    | gt => cases atMost
  · rintro (compared | compared)
    · exact ⟨.eq, compared, rfl⟩
    · exact ⟨.lt, compared, rfl⟩

theorem lt?_eq_none_iff : left.lt? right = none ↔ ¬ left.Comparable right := by
  rw [lt?, Option.map_eq_none_iff, compare?_eq_none_iff]

theorem lt?_eq_false_iff : left.lt? right = some false ↔ right.le? left = some true := by
  have stand := compare?_compared left right
  rw [le?_eq_true_iff, lt?]
  generalize compare? left right = outcome at stand ⊢
  cases stand with
  | before precedes =>
      refine iff_of_false nofun ?_
      rintro (rfl | follows)
      · exact Precedes.irrefl right precedes
      · exact Precedes.irrefl left (precedes.trans follows)
  | same equal => exact iff_of_true rfl (.inl equal.symm)
  | after precedes => exact iff_of_true rfl (.inr precedes)
  | unordered incomparable =>
      refine iff_of_false nofun fun after => incomparable ?_
      exact comparable_iff.mpr (.inr (after.imp_left Eq.symm))

theorem le?_trans (earlier : first.le? second = some true) (later : second.le? third = some true) :
    first.le? third = some true := by
  rw [le?_eq_true_iff] at earlier later ⊢
  rcases earlier with rfl | before
  · exact later
  · rcases later with rfl | after
    · exact .inr before
    · exact .inr (before.trans after)

theorem le?_antisymm (before : left.le? right = some true) (after : right.le? left = some true) :
    left = right := by
  rcases le?_eq_true_iff.mp before with same | precedes
  · exact same
  · rcases le?_eq_true_iff.mp after with same | follows
    · exact same.symm
    · exact absurd (precedes.trans follows) (Precedes.irrefl left)

theorem comparable_of_le? (before : left.le? right = some true) : left.Comparable right := by
  rcases le?_eq_true_iff.mp before with same | precedes
  · exact .inl same
  · exact comparable_iff.mpr (.inl precedes)

theorem Comparable.symm (comparable : left.Comparable right) : right.Comparable left := by
  rcases comparable_iff.mp comparable with before | same | after
  · exact comparable_iff.mpr (.inr (.inr before))
  · exact .inl same.symm
  · exact comparable_iff.mpr (.inl after)

/-- Of smaller, equal and greater exactly one holds, and every comparison says the same. -/
structure Decided (left right : Span) (less greater : Bool) : Prop where
  lt : left.lt? right = some less
  flipped : right.lt? left = some greater
  one : less = true ∧ left ≠ right ∧ greater = false ∨
    less = false ∧ left = right ∧ greater = false ∨
    less = false ∧ left ≠ right ∧ greater = true
  le : left.le? right = some (!greater)
  gt : left.gt? right = some greater
  ge : left.ge? right = some (!less)

theorem comparisons_decided (comparable : left.Comparable right) :
    ∃ less greater, Decided left right less greater := by
  rcases comparable_iff.mp comparable with before | rfl | after
  · have different : left ≠ right := fun same => Precedes.irrefl right (same ▸ before)
    refine ⟨true, false, ?_, ?_, .inl ⟨rfl, different, rfl⟩, ?_, ?_, ?_⟩
    all_goals simp [lt?, le?, gt?, ge?, before.compare?_eq, before.compare?_swap]
  · refine ⟨false, false, ?_, ?_, .inr (.inl ⟨rfl, rfl, rfl⟩), ?_, ?_, ?_⟩
    all_goals simp [lt?, le?, gt?, ge?, compare?_self]
  · have different : left ≠ right := fun same => Precedes.irrefl left (same ▸ after)
    refine ⟨false, true, ?_, ?_, .inr (.inr ⟨rfl, different, rfl⟩), ?_, ?_, ?_⟩
    all_goals simp [lt?, le?, gt?, ge?, after.compare?_eq, after.compare?_swap]

theorem comparisons_fail (incomparable : ¬ left.Comparable right) :
    left.lt? right = none ∧ left.le? right = none ∧ left.gt? right = none ∧
      left.ge? right = none := by
  simp [lt?, le?, gt?, ge?, compare?_of_incomparable incomparable]

theorem ne_of_lt? (below : left.lt? right = some true) : left ≠ right := by
  rintro rfl
  exact Precedes.irrefl left (lt?_eq_true_iff.mp below)

theorem lt?_of_start {lower upper : Int} (starts : left.start = some lower)
    (later : right.start = some upper) (ascending : lower < upper) :
    left.lt? right = some true := by
  refine lt?_eq_true_iff.mpr ⟨lower, upper, ascending, ?_⟩
  rw [positions, positions, starts, later]
  exact .here (by simpa using Int.ne_of_lt ascending) _ _

end WorkItemQuery.Span
