/-!
# First items

The first item of a list with a property, told by what stands before it. A search through a list
finds exactly that item.
-/

namespace WorkItemQuery

def IsFirst {α : Type} (property : α → Prop) (items : List α) (item : α) : Prop :=
  ∃ before after, items = before ++ item :: after ∧ property item ∧
    ∀ earlier ∈ before, ¬ property earlier

namespace IsFirst

variable {α : Type} {property : α → Prop} {items : List α} {item : α}

theorem holds (first : IsFirst property items item) : property item := by
  obtain ⟨_, _, _, held, _⟩ := first
  exact held

theorem mem (first : IsFirst property items item) : item ∈ items := by
  obtain ⟨before, after, split, _, _⟩ := first
  rw [split]
  exact List.mem_append_right before (List.mem_cons_self ..)

theorem not_forall (first : IsFirst property items item) : ¬ ∀ item ∈ items, ¬ property item :=
  fun quiet => quiet item first.mem first.holds

end IsFirst

theorem find?_eq_some_iff_isFirst {α : Type} {property : α → Prop} {test : α → Bool}
    (decides : ∀ item, test item = true ↔ property item) {items : List α} {item : α} :
    items.find? test = some item ↔ IsFirst property items item := by
  have refuses (other : α) : (!test other) = true ↔ ¬ property other := by
    rw [← decides other]
    simp
  rw [List.find?_eq_some_iff_append, decides item]
  constructor
  · intro found
    obtain ⟨held, before, after, split, quiet⟩ := found
    exact ⟨before, after, split, held,
      fun earlier member => (refuses earlier).mp (quiet earlier member)⟩
  · intro first
    obtain ⟨before, after, split, held, quiet⟩ := first
    exact ⟨held, before, after, split,
      fun earlier member => (refuses earlier).mpr (quiet earlier member)⟩

theorem find?_eq_none_iff_forall {α : Type} {property : α → Prop} {test : α → Bool}
    (decides : ∀ item, test item = true ↔ property item) {items : List α} :
    items.find? test = none ↔ ∀ item ∈ items, ¬ property item := by
  simp only [List.find?_eq_none, decides]

/-- The order of items does not matter to a search that at most one of them ends. -/
theorem find?_eq_of_perm {α : Type} {test : α → Bool} {items others : List α}
    (reordered : items.Perm others)
    (single : items.Pairwise fun left right => ¬ (test left = true ∧ test right = true)) :
    items.find? test = others.find? test := by
  induction reordered with
  | nil => rfl
  | cons item _ ih => rw [List.find?_cons, List.find?_cons, ih (List.pairwise_cons.mp single).2]
  | swap first second rest =>
      have apart := (List.pairwise_cons.mp single).1 first List.mem_cons_self
      simp only [List.find?_cons]
      cases here : test first <;> cases there : test second <;> simp_all
  | trans reordered _ ih later =>
      have symmetric : ∀ left right, ¬ (test left = true ∧ test right = true) →
          ¬ (test right = true ∧ test left = true) := fun _ _ apart => mt And.symm apart
      exact (ih single).trans (later ((reordered.pairwise_iff (symmetric _ _)).mp single))

theorem isFirst_cons_of_holds {α : Type} {property : α → Prop} {head : α} {tail : List α}
    (held : property head) {item : α} : IsFirst property (head :: tail) item ↔ head = item := by
  constructor
  · intro found
    obtain ⟨before, after, split, _, quiet⟩ := found
    cases before with
    | nil => exact (List.cons.inj split).1
    | cons first rest =>
        have same : head = first := (List.cons.inj split).1
        exact absurd (same ▸ held) (quiet first (List.mem_cons_self ..))
  · intro same
    subst same
    exact ⟨[], tail, rfl, held, by simp⟩

theorem isFirst_cons_of_not {α : Type} {property : α → Prop} {head : α} {tail : List α}
    (quiet : ¬ property head) {item : α} :
    IsFirst property (head :: tail) item ↔ IsFirst property tail item := by
  constructor
  · intro first
    obtain ⟨before, after, split, held, earlier⟩ := first
    cases before with
    | nil =>
        have same : head = item := (List.cons.inj split).1
        exact absurd (same ▸ held) quiet
    | cons first rest =>
        exact ⟨rest, after, (List.cons.inj split).2, held,
          fun other member => earlier other (List.mem_cons_of_mem first member)⟩
  · intro first
    obtain ⟨before, after, split, held, earlier⟩ := first
    refine ⟨head :: before, after, by rw [split, List.cons_append], held, ?_⟩
    intro other member
    rcases List.mem_cons.mp member with here | later
    · exact here ▸ quiet
    · exact earlier other later

theorem exists_isFirst {α : Type} {property : α → Prop} {items : List α} {item : α}
    (member : item ∈ items) (held : property item) : ∃ first, IsFirst property items first := by
  induction items with
  | nil => cases member
  | cons head tail ih =>
      by_cases here : property head
      · exact ⟨head, (isFirst_cons_of_holds here).mpr rfl⟩
      · have later : item ∈ tail := by
          rcases List.mem_cons.mp member with same | later
          · exact absurd (same ▸ held) here
          · exact later
        obtain ⟨first, found⟩ := ih later
        exact ⟨first, (isFirst_cons_of_not here).mpr found⟩

theorem IsFirst.unique {α : Type} {property : α → Prop} {items : List α} {item other : α}
    (first : IsFirst property items item) (second : IsFirst property items other) :
    item = other := by
  induction items with
  | nil => cases first.mem
  | cons head tail ih =>
      by_cases held : property head
      · exact ((isFirst_cons_of_holds held).mp first).symm.trans
          ((isFirst_cons_of_holds held).mp second)
      · exact ih ((isFirst_cons_of_not held).mp first) ((isFirst_cons_of_not held).mp second)

/-- Items that stand for others can be found among those. -/
theorem isFirst_filterMap_iff {α β : Type} {view : α → Option β} {embed : β → α}
    (inverse : ∀ item image, view item = some image ↔ item = embed image)
    {property : β → Prop} {shown : α → Prop}
    (shows_iff : ∀ item, shown item ↔ ∃ image, item = embed image ∧ property image)
    {items : List α} {image : β} :
    IsFirst property (items.filterMap view) image ↔ IsFirst shown items (embed image) := by
  have view_embed (first : β) : view (embed first) = some first := (inverse _ first).mpr rfl
  have embed_inj {first second : β} : embed first = embed second ↔ first = second := by
    rw [← inverse, view_embed, Option.some_inj]
  induction items with
  | nil => simp [IsFirst]
  | cons head tail ih =>
      cases seen : view head with
      | none =>
          have hidden : ¬ shown head := by
            intro held
            obtain ⟨first, same, _⟩ := (shows_iff head).mp held
            rw [same, view_embed] at seen
            cases seen
          rw [List.filterMap_cons_none seen, isFirst_cons_of_not hidden]
          exact ih
      | some first =>
          have same : head = embed first := (inverse head first).mp seen
          rw [List.filterMap_cons_some seen]
          by_cases held : property first
          · have seen : shown head := (shows_iff head).mpr ⟨first, same, held⟩
            rw [isFirst_cons_of_holds held, isFirst_cons_of_holds seen, same, embed_inj]
          · have hidden : ¬ shown head := by
              intro seen
              obtain ⟨second, again, other⟩ := (shows_iff head).mp seen
              exact held (embed_inj.mp (same.symm.trans again) ▸ other)
            rw [isFirst_cons_of_not held, isFirst_cons_of_not hidden]
            exact ih

end WorkItemQuery
