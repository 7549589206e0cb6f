import Mathlib.Data.List.Forall2
import WorkItemQuery.Proofs.Tree.First

/-!
# Computations that may fail

What the steps of a computation gave when the whole of it gave a result, and which of them it was
that failed.
-/

namespace WorkItemQuery

variable {ε α β σ : Type}

theorem bind_eq_ok_iff {first : Except ε α} {next : α → Except ε β} {result : β} :
    first >>= next = .ok result ↔ ∃ value, first = .ok value ∧ next value = .ok result := by
  cases first with
  | error error =>
      constructor
      · intro given
        cases given
      · intro passed
        obtain ⟨_, given, _⟩ := passed
        cases given
  | ok value =>
      constructor
      · intro given
        exact ⟨value, rfl, given⟩
      · intro passed
        obtain ⟨_, same, given⟩ := passed
        cases same
        exact given

theorem map_eq_ok_iff {first : Except ε α} {change : α → β} {result : β} :
    first.map change = .ok result ↔ ∃ value, first = .ok value ∧ change value = result := by
  cases first <;> simp [Except.map]

theorem map_eq_error_iff {first : Except ε α} {change : α → β} {error : ε} :
    first.map change = .error error ↔ first = .error error := by
  cases first <;> simp [Except.map]

theorem bind_eq_error_iff_of_total {first : Except ε α} {next : α → Except ε β} {error : ε}
    (total : ∀ value, first = .ok value → ∃ result, next value = .ok result) :
    first >>= next = .error error ↔ first = .error error := by
  cases first with
  | error raised => simp [bind, Except.bind]
  | ok value =>
      obtain ⟨result, given⟩ := total value rfl
      simp [bind, Except.bind, given]

/-- What makes a computation succeed tells when it succeeds, if it fails in all other cases. -/
theorem eq_ok_iff_of_cases {computed : Except ε α} {gives : α → Prop}
    (passes : ∀ value, gives value → computed = .ok value)
    (cases : (∃ value, gives value) ∨ ∃ error, computed = .error error) {value : α} :
    computed = .ok value ↔ gives value := by
  refine ⟨fun given => ?_, passes value⟩
  rcases cases with ⟨other, gave⟩ | ⟨error, failed⟩
  · cases given.symm.trans (passes other gave)
    exact gave
  · cases given.symm.trans failed

theorem mapM_eq_ok_iff {step : α → Except ε β} {items : List α} {results : List β} :
    items.mapM step = .ok results ↔
      List.Forall₂ (fun item result => step item = .ok result) items results := by
  induction items generalizing results with
  | nil => cases results <;> simp [pure, Except.pure]
  | cons item rest ih =>
      rw [List.mapM_cons, List.forall₂_cons_left_iff, bind_eq_ok_iff]
      refine exists_congr fun first => ?_
      rw [bind_eq_ok_iff]
      constructor
      · intro given
        obtain ⟨here, later, remaining, same⟩ := given
        cases same
        exact ⟨later, here, ih.mp remaining, rfl⟩
      · intro given
        obtain ⟨later, here, remaining, same⟩ := given
        exact ⟨here, later, ih.mpr remaining, congrArg Except.ok same.symm⟩

theorem exists_mem_of_forall₂ {related : α → β → Prop} {items : List α} {results : List β}
    (paired : List.Forall₂ related items results) {result : β} (member : result ∈ results) :
    ∃ item ∈ items, related item result := by
  induction paired with
  | nil => cases member
  | cons first _ ih =>
      rcases List.mem_cons.mp member with rfl | later
      · exact ⟨_, List.mem_cons_self, first⟩
      · obtain ⟨item, among, given⟩ := ih later
        exact ⟨item, List.mem_cons_of_mem _ among, given⟩

theorem mapM_append_eq_ok_iff {step : α → Except ε β} {first second : List α} {results : List β} :
    (first ++ second).mapM step = .ok results ↔
      ∃ left right, first.mapM step = .ok left ∧ second.mapM step = .ok right ∧
        results = left ++ right := by
  rw [List.mapM_append, bind_eq_ok_iff]
  refine exists_congr fun left => ?_
  rw [bind_eq_ok_iff]
  constructor
  · intro given
    obtain ⟨here, right, there, same⟩ := given
    cases same
    exact ⟨right, here, there, rfl⟩
  · intro given
    obtain ⟨right, here, there, rfl⟩ := given
    exact ⟨here, right, there, rfl⟩

def Fails (step : α → Except ε β) (item : α) : Prop :=
  ∃ error, step item = .error error

/-- Going through items fails with the error of the first item that fails. -/
theorem mapM_eq_error_iff {step : α → Except ε β} {items : List α} {error : ε} :
    items.mapM step = .error error ↔
      ∃ item, IsFirst (Fails step) items item ∧ step item = .error error := by
  induction items with
  | nil => simp [IsFirst, pure, Except.pure]
  | cons first rest ih =>
      rw [List.mapM_cons]
      cases here : step first with
      | error raised =>
          have fails : Fails step first := ⟨raised, here⟩
          simp [isFirst_cons_of_holds fails, here, bind, Except.bind]
      | ok result =>
          have passes : ¬ Fails step first := by simp [Fails, here]
          simp only [isFirst_cons_of_not passes, ← ih]
          cases rest.mapM step <;> simp [bind, Except.bind, pure, Except.pure]

/-- Where there is only one error to fail with, it does not matter which item fails first. -/
theorem mapM_eq_error_iff_of_only {step : α → Except ε β} {items : List α} {only error : ε}
    (single : ∀ item raised, step item = .error raised → raised = only) :
    items.mapM step = .error error ↔ error = only ∧ ∃ item ∈ items, Fails step item := by
  rw [mapM_eq_error_iff]
  constructor
  · intro failed
    obtain ⟨item, first, raised⟩ := failed
    exact ⟨single item error raised, item, first.mem, first.holds⟩
  · intro failed
    obtain ⟨rfl, item, member, fails⟩ := failed
    obtain ⟨first, found⟩ := exists_isFirst member fails
    obtain ⟨raised, given⟩ := found.holds
    exact ⟨first, found, single first raised given ▸ given⟩

/-- A computation that fails exactly if something is demanded, and then with an allowed error. -/
inductive FailsFor (allowed : ε → Prop) (demand : Prop) : Except ε α → Prop where
  | error {error : ε} (demanded : demand) (among : allowed error) :
      FailsFor allowed demand (.error error)
  | ok {value : α} (quiet : ¬ demand) : FailsFor allowed demand (.ok value)

namespace FailsFor

variable {allowed : ε → Prop} {demand other : Prop} {computed : Except ε α}

theorem congr (fails : FailsFor allowed demand computed) (same : demand ↔ other) :
    FailsFor allowed other computed := by
  cases fails with
  | error demanded among => exact .error (same.mp demanded) among
  | ok quiet => exact .ok (mt same.mpr quiet)

theorem map (fails : FailsFor allowed demand computed) (change : α → β) :
    FailsFor allowed demand (computed.map change) := by
  cases fails with
  | error demanded among => exact .error demanded among
  | ok quiet => exact .ok quiet

theorem bind (fails : FailsFor allowed demand computed) {next : α → Except ε β}
    (later : ∀ value, computed = .ok value → FailsFor allowed other (next value)) :
    FailsFor allowed (demand ∨ other) (computed >>= next) := by
  cases fails with
  | error demanded among => exact .error (.inl demanded) among
  | ok quiet => exact (later _ rfl).congr (or_iff_right quiet).symm

/-- Going through items fails for what any of them demands. -/
theorem mapM {step : α → Except ε β} {demands : α → Prop} {items : List α}
    (each : ∀ item ∈ items, FailsFor allowed (demands item) (step item)) :
    FailsFor allowed (∃ item ∈ items, demands item) (items.mapM step) := by
  induction items with
  | nil => exact .ok (by simp)
  | cons item rest ih =>
      obtain ⟨here, later⟩ := List.forall_mem_cons.mp each
      rw [List.mapM_cons]
      refine (here.bind fun result _ => ?_).congr (List.exists_mem_cons_iff _ _ _).symm
      exact (ih later).map (result :: ·)

end FailsFor

theorem foldlM_preserves {Invariant : σ → Prop} {add : σ → α → Except ε σ} {items : List α}
    {start result : σ}
    (preserved : ∀ state item next, Invariant state → add state item = .ok next → Invariant next)
    (held : Invariant start) (given : items.foldlM add start = .ok result) :
    Invariant result := by
  induction items generalizing start with
  | nil =>
      cases given
      exact held
  | cons item rest ih =>
      rw [List.foldlM_cons] at given
      obtain ⟨next, added, folded⟩ := bind_eq_ok_iff.mp given
      exact ih (preserved start item next held added) folded

section Folds

variable {add : σ → α → Except ε σ} {items : List α} {start result : σ}

/-- Where each step puts what its item gives into the state, all of it is put there in the end. -/
theorem foldlM_eq_ok_iff {gives : α → β → Prop} {put : σ → β → σ}
    (added : ∀ state item next,
      add state item = .ok next ↔ ∃ given, gives item given ∧ next = put state given) :
    items.foldlM add start = .ok result ↔
      ∃ given, List.Forall₂ gives items given ∧ result = given.foldl put start := by
  induction items generalizing start with
  | nil => simp [pure, Except.pure, eq_comm]
  | cons item rest ih =>
      rw [List.foldlM_cons, bind_eq_ok_iff]
      constructor
      · intro folded
        obtain ⟨next, first, folded⟩ := folded
        obtain ⟨here, gave, rfl⟩ := (added start item next).mp first
        obtain ⟨later, remaining, rfl⟩ := ih.mp folded
        exact ⟨here :: later, .cons gave remaining, rfl⟩
      · intro gave
        obtain ⟨given, all, rfl⟩ := gave
        obtain ⟨here, later, first, remaining, rfl⟩ := List.forall₂_cons_left_iff.mp all
        exact ⟨put start here, (added _ _ _).mpr ⟨here, first, rfl⟩, ih.mpr ⟨later, remaining, rfl⟩⟩

variable {fault : α → ε → Prop}

end Folds

/-- Two computations that fail with one error or give related results. -/
inductive ExceptRel (related : α → β → Prop) : Except ε α → Except ε β → Prop where
  | error (error : ε) : ExceptRel related (.error error) (.error error)
  | ok {left : α} {right : β} (results : related left right) :
      ExceptRel related (.ok left) (.ok right)

theorem ExceptRel.error_or_ok {related : α → β → Prop} {first : Except ε α} {second : Except ε β}
    (computed : ExceptRel related first second) :
    (∃ error, first = .error error ∧ second = .error error) ∨
      ∃ left right, first = .ok left ∧ second = .ok right ∧ related left right := by
  cases computed with
  | error error => exact .inl ⟨error, rfl, rfl⟩
  | ok given => exact .inr ⟨_, _, rfl, rfl, given⟩

theorem ExceptRel.map {γ δ : Type} {related : α → β → Prop} {results : γ → δ → Prop}
    {first : Except ε α} {second : Except ε β} {change : α → γ} {other : β → δ}
    (computed : ExceptRel related first second)
    (changed : ∀ left right, related left right → results (change left) (other right)) :
    ExceptRel results (first.map change) (second.map other) := by
  cases computed with
  | error error => exact .error error
  | ok given => exact .ok (changed _ _ given)

theorem ExceptRel.imp {related other : α → β → Prop} {first : Except ε α} {second : Except ε β}
    (computed : ExceptRel related first second)
    (implies : ∀ left right, related left right → other left right) :
    ExceptRel other first second := by
  cases computed with
  | error error => exact .error error
  | ok given => exact .ok (implies _ _ given)

theorem ExceptRel.bind {γ δ : Type} {related : α → β → Prop} {results : γ → δ → Prop}
    {first : Except ε α} {second : Except ε β} {next : α → Except ε γ} {other : β → Except ε δ}
    (computed : ExceptRel related first second)
    (continued : ∀ left right, related left right → ExceptRel results (next left) (other right)) :
    ExceptRel results (first >>= next) (second >>= other) := by
  cases computed with
  | error error => exact .error error
  | ok given => exact continued _ _ given

theorem ExceptRel.foldlM {τ : Type} {related : σ → τ → Prop} {add : σ → α → Except ε σ}
    {other : τ → α → Except ε τ} {items : List α} {left : σ} {right : τ}
    (added : ∀ left right item, related left right →
      ExceptRel related (add left item) (other right item))
    (start : related left right) :
    ExceptRel related (items.foldlM add left) (items.foldlM other right) := by
  induction items generalizing left right with
  | nil => exact .ok start
  | cons item rest ih =>
      rw [List.foldlM_cons, List.foldlM_cons]
      exact (added left right item start).bind fun _ _ next => ih next

theorem mapM_congr_of_forall₂ {γ : Type} {step : α → Except ε γ} {other : β → Except ε γ}
    {lefts : List α} {rights : List β}
    (agree : List.Forall₂ (fun left right => step left = other right) lefts rights) :
    lefts.mapM step = rights.mapM other := by
  induction agree with
  | nil => rfl
  | cons first _ ih => rw [List.mapM_cons, List.mapM_cons, first, ih]

/-- Nothing is found by a search through all items exactly if nothing is found in any of them. -/
theorem mapM_finds_nothing_iff {find : α → Except ε (Option β)} {items : List α} :
    (∃ found, items.mapM find = .ok found ∧ found.filterMap id = []) ↔
      ∀ item ∈ items, find item = .ok none := by
  induction items with
  | nil =>
      constructor
      · intro _ item member
        cases member
      · intro _
        exact ⟨[], rfl, rfl⟩
  | cons item rest ih =>
      rw [List.forall_mem_cons, ← ih, List.mapM_cons]
      constructor
      · intro searched
        obtain ⟨found, given, nothing⟩ := searched
        obtain ⟨here, first, given⟩ := bind_eq_ok_iff.mp given
        obtain ⟨later, remaining, given⟩ := bind_eq_ok_iff.mp given
        cases given
        cases here with
        | none => exact ⟨first, later, remaining, by simpa using nothing⟩
        | some result => simp at nothing
      · intro searched
        obtain ⟨first, later, remaining, nothing⟩ := searched
        refine ⟨none :: later, ?_, by simpa using nothing⟩
        rw [first, remaining]
        rfl

end WorkItemQuery
