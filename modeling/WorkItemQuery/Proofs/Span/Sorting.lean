import Mathlib.Data.List.Lex
import Mathlib.Data.List.Pairwise
import WorkItemQuery.Proofs.ComparisonSort
import WorkItemQuery.Proofs.Span.Order

/-!
# Sorting spans

A list of spans can be sorted exactly if every two of them have an order, although a sort need not
compare every two: what it does compare it has found in order, and from there on the order is
transitive. So it does not matter either by which comparisons the spans are sorted. Main statement:
`sorting_needs_comparable_spans`.
-/

namespace WorkItemQuery.Span

variable {left right first second third : Span}

section Insertion

variable {span : Span} {spans sorted result : List Span}

theorem insert?_perm (inserted : insert? span spans = some result) :
    result.Perm (span :: spans) := by
  induction spans generalizing result with
  | nil =>
      cases inserted
      exact .refl _
  | cons first rest ih =>
      rw [insert?] at inserted
      split at inserted
      · cases inserted
      · obtain ⟨later, insertedLater, rfl⟩ := Option.map_eq_some_iff.mp inserted
        exact ((ih insertedLater).cons first).trans (.swap span first rest)
      · cases inserted
        exact .refl _

theorem insert?_ordered (ordered : spans.Pairwise fun left right => left.le? right = some true)
    (inserted : insert? span spans = some result) :
    result.Pairwise fun left right => left.le? right = some true := by
  induction spans generalizing result with
  | nil =>
      cases inserted
      exact List.pairwise_singleton _ _
  | cons first rest ih =>
      obtain ⟨lowest, restOrdered⟩ := List.pairwise_cons.mp ordered
      have stand := compare?_compared span first
      rw [insert?] at inserted
      generalize compare? span first = outcome at stand inserted
      have inFront (before : span.le? first = some true) :
          (span :: first :: rest).Pairwise fun left right => left.le? right = some true := by
        refine List.pairwise_cons.mpr ⟨List.forall_mem_cons.mpr ⟨before, ?_⟩, ordered⟩
        exact fun other member => le?_trans before (lowest other member)
      cases stand with
      | before precedes =>
          cases inserted
          exact inFront (le?_eq_true_iff.mpr (.inr precedes))
      | same equal =>
          cases inserted
          exact inFront (le?_eq_true_iff.mpr (.inl equal))
      | after precedes =>
          obtain ⟨later, insertedLater, rfl⟩ := Option.map_eq_some_iff.mp inserted
          refine List.pairwise_cons.mpr ⟨fun other member => ?_, ih restOrdered insertedLater⟩
          rcases List.mem_cons.mp ((insert?_perm insertedLater).mem_iff.mp member) with rfl | held
          · exact le?_eq_true_iff.mpr (.inr precedes)
          · exact lowest other held
      | unordered incomparable => cases inserted

theorem insert?_exists (comparable : ∀ other ∈ spans, span.Comparable other) :
    ∃ result, insert? span spans = some result := by
  induction spans with
  | nil => exact ⟨_, rfl⟩
  | cons first rest ih =>
      obtain ⟨here, later⟩ := List.forall_mem_cons.mp comparable
      obtain ⟨result, inserted⟩ := ih later
      have stand := compare?_compared span first
      rw [insert?, inserted]
      generalize compare? span first = outcome at stand ⊢
      cases stand with
      | before precedes => exact ⟨_, rfl⟩
      | same equal => exact ⟨_, rfl⟩
      | after precedes => exact ⟨_, rfl⟩
      | unordered incomparable => exact absurd here incomparable

theorem sort?_sorted (put : sort? spans = some sorted) :
    sorted.Perm spans ∧ sorted.Pairwise fun left right => left.le? right = some true := by
  induction spans generalizing sorted with
  | nil =>
      cases put
      exact ⟨.refl _, .nil⟩
  | cons span rest ih =>
      obtain ⟨earlier, put, inserted⟩ := Option.bind_eq_some_iff.mp put
      obtain ⟨perm, ordered⟩ := ih put
      exact ⟨(insert?_perm inserted).trans (perm.cons span), insert?_ordered ordered inserted⟩

theorem sort?_exists (comparable : ∀ left ∈ spans, ∀ right ∈ spans, left.Comparable right) :
    ∃ sorted, sort? spans = some sorted := by
  induction spans with
  | nil => exact ⟨_, rfl⟩
  | cons span rest ih =>
      obtain ⟨here, later⟩ := List.forall_mem_cons.mp comparable
      have among : ∀ left ∈ rest, ∀ right ∈ rest, left.Comparable right :=
        fun left member => (List.forall_mem_cons.mp (later left member)).2
      obtain ⟨sorted, put⟩ := ih among
      have perm : sorted.Perm rest := (sort?_sorted put).1
      rw [sort?, put, Option.bind_some]
      refine insert?_exists fun other member => ?_
      exact (List.forall_mem_cons.mp here).2 other (perm.mem_iff.mp member)

theorem comparable_of_ordered (perm : sorted.Perm spans)
    (ordered : sorted.Pairwise fun left right => left.le? right = some true) :
    ∀ left ∈ spans, ∀ right ∈ spans, left.Comparable right := by
  intro left member right rightMember
  have : Std.Symm Comparable := ⟨fun _ _ => Comparable.symm⟩
  exact (ordered.imp comparable_of_le?).forall_of_forall (fun span _ => .inl rfl)
    (perm.mem_iff.mpr member) (perm.mem_iff.mpr rightMember)

theorem sort?_eq_none_iff :
    sort? spans = none ↔ ∃ left ∈ spans, ∃ right ∈ spans, ¬ left.Comparable right := by
  constructor
  · intro failed
    by_contra ordered
    have comparable : ∀ left ∈ spans, ∀ right ∈ spans, left.Comparable right := by
      intro left member right rightMember
      by_contra incomparable
      exact ordered ⟨left, member, right, rightMember, incomparable⟩
    obtain ⟨sorted, put⟩ := sort?_exists comparable
    cases failed.symm.trans put
  · rintro ⟨left, member, right, rightMember, incomparable⟩
    cases put : sort? spans with
    | none => rfl
    | some sorted =>
        obtain ⟨perm, ordered⟩ := sort?_sorted put
        exact absurd (comparable_of_ordered perm ordered left member right rightMember) incomparable

theorem sort?_eq_some_iff : sort? spans = some sorted ↔
    sorted.Perm spans ∧ sorted.Pairwise fun left right => left.le? right = some true := by
  refine ⟨sort?_sorted, fun arranged => ?_⟩
  obtain ⟨result, put⟩ := sort?_exists (comparable_of_ordered arranged.1 arranged.2)
  obtain ⟨perm, ordered⟩ := sort?_sorted put
  have same : result = sorted :=
    List.Perm.eq_of_pairwise (fun _ _ _ _ => le?_antisymm) ordered arranged.2
      (perm.trans arranged.1.symm)
  rw [put, same]

theorem sort?_of_ascending
    (ascending : spans.Pairwise fun left right => left.lt? right = some true) :
    sort? spans = some spans := by
  refine sort?_eq_some_iff.mpr ⟨.refl _, ascending.imp fun below => ?_⟩
  exact le?_eq_true_iff.mpr (.inr (lt?_eq_true_iff.mp below))

end Insertion

/-- Keys are in an order that agrees with that of the spans: an unknown position comes first. -/
def key (span : Span) : List (List Int) :=
  span.positions.map Option.toList

theorem Precedes.key_lt (precedes : left.Precedes right) : left.key < right.key := by
  obtain ⟨lower, upper, below, _, shared, leftRest, rightRest, here, there⟩ := precedes
  rw [key, key, here, there]
  clear here there
  induction shared with
  | nil => exact List.cons_lt_cons_iff.mpr (.inl (List.cons_lt_cons_iff.mpr (.inl below)))
  | cons position shared ih => exact List.cons_lt_cons_iff.mpr (.inr ⟨rfl, ih⟩)

theorem key_le_of_le? (before : left.le? right = some true) : left.key ≤ right.key := by
  rcases le?_eq_true_iff.mp before with rfl | precedes
  · exact le_refl _
  · exact precedes.key_lt.le

/-- Whatever a sort compares, it puts spans in order exactly if all of them can be compared, and
there is one order to put them in. -/
theorem run?_eq_sort? {spans : List Span} {sort : ComparisonSort spans.length}
    (sorts : sort.Sorts) :
    (sort.run? fun left right => (spans.get left).lt? (spans.get right)).map (·.map spans.get) =
      sort? spans := by
  cases ran : sort.run? fun left right => (spans.get left).lt? (spans.get right) with
  | none =>
      obtain ⟨left, right, unanswered⟩ := ComparisonSort.exists_unanswered ran
      refine (sort?_eq_none_iff.mpr ?_).symm
      exact ⟨_, List.get_mem spans left, _, List.get_mem spans right, lt?_eq_none_iff.mp unanswered⟩
  | some order =>
      obtain ⟨perm, ordered⟩ := sorts.ordered (fun item => (spans.get item).key)
        (fun first second => (spans.get first).le? (spans.get second) = some true)
        (fun item => le?_eq_true_iff.mpr (.inl rfl)) le?_trans
        (fun left right answered => ⟨le?_eq_true_iff.mpr (.inr (lt?_eq_true_iff.mp answered)),
          (lt?_eq_true_iff.mp answered).key_lt⟩)
        (fun left right answered => ⟨lt?_eq_false_iff.mp answered,
          key_le_of_le? (lt?_eq_false_iff.mp answered)⟩) ran
      refine (sort?_eq_some_iff.mpr ⟨?_, List.pairwise_map.mpr ordered⟩).symm
      have arranged := perm.map spans.get
      rwa [List.map_get_finRange] at arranged

/-- Comparing two spans decides how they stand if they have an order and fails otherwise, and the
order is transitive. A list of spans is sorted exactly if all of its spans have an order, into the
same spans with none before a smaller one, and any other way to sort by comparisons comes to the
same. -/
theorem sorting_needs_comparable_spans :
    (∀ left right : Span, left.Comparable right → ∃ less greater, Decided left right less greater) ∧
    (∀ left right : Span, ¬ left.Comparable right → left.lt? right = none ∧
      left.le? right = none ∧ left.gt? right = none ∧ left.ge? right = none) ∧
    (∀ first second third : Span, first.le? second = some true → second.le? third = some true →
      first.Comparable third ∧ first.le? third = some true) ∧
    ∀ spans : List Span,
      (sort? spans = none ↔ ∃ left ∈ spans, ∃ right ∈ spans, ¬ left.Comparable right) ∧
      (∀ sorted, sort? spans = some sorted → sorted.Perm spans ∧
        sorted.Pairwise fun left right => left.le? right = some true) ∧
      ∀ sort : ComparisonSort spans.length, sort.Sorts →
        (sort.run? fun left right => (spans.get left).lt? (spans.get right)).map
          (·.map spans.get) = sort? spans := by
  refine ⟨fun _ _ => comparisons_decided, fun _ _ => comparisons_fail, ?_, fun spans => ?_⟩
  · intro first second third earlier later
    have ordered : first.le? third = some true := le?_trans earlier later
    exact ⟨comparable_of_le? ordered, ordered⟩
  · exact ⟨sort?_eq_none_iff, fun _ => sort?_eq_some_iff.mp, fun _ => run?_eq_sort?⟩

namespace ThreeSpans

/-- Puts the first two items in order and then the third in its place, from behind. -/
def byInsertion : ComparisonSort 3 :=
  .ask 1 0
    (.ask 2 0 (.ask 2 1 (.done [2, 1, 0]) (.done [1, 2, 0])) (.done [1, 0, 2]))
    (.ask 2 1 (.ask 2 0 (.done [2, 0, 1]) (.done [0, 2, 1])) (.done [0, 1, 2]))

theorem byInsertion_sorts : byInsertion.Sorts := by
  intro κ _ key
  simp only [byInsertion, ComparisonSort.run?]
  by_cases second : key 1 < key 0 <;> by_cases third : key 2 < key 0 <;>
    by_cases last : key 2 < key 1
  all_goals
    simp only [second, third, last, decide_true, decide_false]
    refine ⟨_, rfl, by decide, ?_⟩
    simp only [List.pairwise_cons, List.forall_mem_cons]
    grind

def starting (start : Int) (stop : Option Int) : Span :=
  ⟨some start, stop, none, none, none, none⟩

/-- The end of the last span is not known, but no other starts where it does. -/
def ordered : List Span :=
  [starting 4 none, starting 2 (some 3), starting 1 none]

/-- The first and the last span start at one place, where only one of them is known to end. -/
def unordered : List Span :=
  [starting 4 none, starting 2 (some 3), starting 4 (some 9)]

theorem incomparable : ¬ (starting 4 none).Comparable (starting 4 (some 9)) :=
  lt?_eq_none_iff.mp rfl

end ThreeSpans

open ThreeSpans in
theorem three_spans_sorted_alike :
    (∃ less greater, Decided (starting 1 none) (starting 4 none) less greater) ∧
      (starting 4 none).lt? (starting 4 (some 9)) = none ∧
      (starting 1 none).le? (starting 4 none) = some true ∧
      sort? ordered = some [starting 1 none, starting 2 (some 3), starting 4 none] ∧
      (byInsertion.run? fun left right => (ordered.get left).lt? (ordered.get right)).map
        (·.map ordered.get) = sort? ordered ∧
      sort? unordered = none ∧
      (byInsertion.run? fun left right => (unordered.get left).lt? (unordered.get right)).map
        (·.map unordered.get) = none := by
  obtain ⟨decided, fails, follows, sorts⟩ := sorting_needs_comparable_spans
  have comparable : (starting 1 none).Comparable (starting 4 none) :=
    .inr ⟨1, 4, .here (by decide) _ _⟩
  have inTurn := follows (starting 1 none) (starting 2 (some 3)) (starting 4 none) rfl rfl
  obtain ⟨-, -, orderedAlike⟩ := sorts ordered
  obtain ⟨refused, -, unorderedAlike⟩ := sorts unordered
  have unsorted : sort? unordered = none :=
    refused.mpr ⟨_, by simp [unordered], _, by simp [unordered], incomparable⟩
  exact ⟨decided _ _ comparable, (fails _ _ incomparable).1, inTurn.2, rfl,
    orderedAlike byInsertion byInsertion_sorts, unsorted,
    (unorderedAlike byInsertion byInsertion_sorts).trans unsorted⟩

end WorkItemQuery.Span
