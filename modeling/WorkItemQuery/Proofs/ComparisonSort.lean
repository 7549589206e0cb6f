import Mathlib.Data.List.FinRange
import Mathlib.Data.Prod.Lex
import Mathlib.Order.PropInstances

/-!
# Comparison sorts

A comparison sort learns of its items only by asking of two of them whether the one is smaller. It
may be asked to sort items of which some cannot be compared, and then it fails as soon as it asks a
question that has no answer. If it gets through all the same, then the answers alone put the items
into the order that it comes to. Main lemma: `Sorts.ordered`.
-/

namespace WorkItemQuery

/-- What to do with so many items: the next question, and how to go on after each answer. -/
inductive ComparisonSort (count : Nat) where
  | done (order : List (Fin count))
  | ask (left right : Fin count) (smaller other : ComparisonSort count)

namespace ComparisonSort

variable {count : Nat} {sort : ComparisonSort count} {order : List (Fin count)}
  {less? more? : Fin count → Fin count → Option Bool}

/-- The order that the sort comes to, unless it asks a question without an answer. -/
def run? (less? : Fin count → Fin count → Option Bool) :
    ComparisonSort count → Option (List (Fin count))
  | done order => some order
  | ask left right smaller other =>
      match less? left right with
      | none => none
      | some true => smaller.run? less?
      | some false => other.run? less?

/-- Items that all have a key are put in order, whatever the keys are. -/
def Sorts (sort : ComparisonSort count) : Prop :=
  ∀ (κ : Type) [LinearOrder κ] (key : Fin count → κ), ∃ order,
    sort.run? (fun left right => some (decide (key left < key right))) = some order ∧
      order.Perm (List.finRange count) ∧ order.Pairwise fun first second => key first ≤ key second

theorem run?_of_agrees
    (agrees : ∀ left right answer, less? left right = some answer →
      more? left right = some answer)
    (ran : sort.run? less? = some order) : sort.run? more? = some order := by
  induction sort with
  | done result => exact ran
  | ask left right smaller other smallerIH otherIH =>
      rw [run?] at ran ⊢
      cases answered : less? left right with
      | none =>
          rw [answered] at ran
          cases ran
      | some answer =>
          rw [answered] at ran
          rw [agrees left right answer answered]
          cases answer with
          | true => exact smallerIH ran
          | false => exact otherIH ran

theorem exists_unanswered (failed : sort.run? less? = none) :
    ∃ left right, less? left right = none := by
  induction sort with
  | done result => cases failed
  | ask left right smaller other smallerIH otherIH =>
      rw [run?] at failed
      cases answered : less? left right with
      | none => exact ⟨left, right, answered⟩
      | some answer =>
          rw [answered] at failed
          cases answer with
          | true => exact smallerIH failed
          | false => exact otherIH failed

/-- Keys that agree with the answers come out in order. -/
theorem Sorts.keys_ordered (sorts : sort.Sorts) {κ : Type} [LinearOrder κ]
    {key : Fin count → κ}
    (smaller : ∀ left right, less? left right = some true → key left < key right)
    (other : ∀ left right, less? left right = some false → key right ≤ key left)
    (ran : sort.run? less? = some order) :
    order.Perm (List.finRange count) ∧
      order.Pairwise fun first second => key first ≤ key second := by
  have agrees : ∀ left right answer, less? left right = some answer →
      some (decide (key left < key right)) = some answer := by
    intro left right answer answered
    cases answer with
    | true => rw [decide_eq_true (smaller left right answered)]
    | false => rw [decide_eq_false (other left right answered).not_gt]
  obtain ⟨result, again, perm, ordered⟩ := sorts κ key
  cases again.symm.trans (run?_of_agrees agrees ran)
  exact ⟨perm, ordered⟩

/-- What the answers do not put behind an item cannot come to stand behind it. -/
theorem Sorts.ordered (sorts : sort.Sorts) {κ : Type} [LinearOrder κ] (key : Fin count → κ)
    (below : Fin count → Fin count → Prop) (refl : ∀ item, below item item)
    (trans : ∀ {first second third}, below first second → below second third → below first third)
    (smaller : ∀ left right, less? left right = some true →
      below left right ∧ key left < key right)
    (other : ∀ left right, less? left right = some false →
      below right left ∧ key right ≤ key left)
    (ran : sort.run? less? = some order) :
    order.Perm (List.finRange count) ∧ order.Pairwise below := by
  -- The answers also agree with keys that put in front of an item all that is not known to follow
  -- it; the sort cannot tell these from the given ones.
  have parted : ∀ item, order.Pairwise fun first second =>
      (toLex (below item first, key first) : Prop ×ₗ κ) ≤
        toLex (below item second, key second) := by
    intro item
    refine (sorts.keys_ordered ?_ ?_ ran).2
    · intro left right answered
      obtain ⟨follows, before⟩ := smaller left right answered
      exact Prod.Lex.toLex_lt_toLex'.mpr ⟨fun known => trans known follows, fun _ => before⟩
    · intro left right answered
      obtain ⟨follows, before⟩ := other left right answered
      exact Prod.Lex.toLex_le_toLex'.mpr ⟨fun known => trans known follows, fun _ => before⟩
  refine ⟨(sorts.keys_ordered (fun left right answered => (smaller left right answered).2)
    (fun left right answered => (other left right answered).2) ran).1, ?_⟩
  refine List.pairwise_iff_getElem.mpr fun place later bound laterBound before => ?_
  have apart :=
    List.pairwise_iff_getElem.mp (parted order[place]) place later bound laterBound before
  exact (Prod.Lex.toLex_le_toLex'.mp apart).1 (refl order[place])

end ComparisonSort

end WorkItemQuery
