import Mathlib.Data.List.Chain
import WorkItemQuery.Diagnostic
import WorkItemQuery.Proofs.Tree.Tokens

/-!
# The span of a tree

A tree with tokens spans from the first of them to the last, however they are nested. Where the
offsets of the tokens ascend, this is the smallest span that encloses them all. Main statement:
`span_covers_exactly_the_tokens`.
-/

namespace WorkItemQuery

namespace Span

/-- The offsets at which a span begins and ends. -/
def Occupies (span : Span) (first last : Int) : Prop :=
  span.start = some first ∧ span.stop = some last

/-- The one span begins no later than the other and ends no earlier. -/
def Encloses (outer inner : Span) : Prop :=
  ∃ lower upper first last, outer.Occupies lower upper ∧ inner.Occupies first last ∧
    lower ≤ first ∧ last ≤ upper

/-- The one span neither begins nor ends later than the other. -/
def NoLater (earlier later : Span) : Prop :=
  ∃ first last next final, earlier.Occupies first last ∧ later.Occupies next final ∧
    first ≤ next ∧ last ≤ final

theorem Occupies.unique {span : Span} {first last other final : Int}
    (occupies : span.Occupies first last) (also : span.Occupies other final) :
    first = other ∧ last = final :=
  ⟨Option.some.inj (occupies.1.symm.trans also.1), Option.some.inj (occupies.2.symm.trans also.2)⟩

theorem NoLater.trans {first second third : Span} (earlier : first.NoLater second)
    (later : second.NoLater third) : first.NoLater third := by
  obtain ⟨lower, upper, next, final, here, there, starts, stops⟩ := earlier
  obtain ⟨_, _, last, finish, again, beyond, startsNext, stopsNext⟩ := later
  obtain ⟨rfl, rfl⟩ := there.unique again
  exact ⟨lower, upper, last, finish, here, beyond, Int.le_trans starts startsNext,
    Int.le_trans stops stopsNext⟩

/-- What encloses both ends encloses all that lies between. -/
theorem Encloses.join {outer first last : Span} (begins : outer.Encloses first)
    (ends : outer.Encloses last) : outer.Encloses (first.join last) := by
  obtain ⟨lower, upper, start, _, here, there, starts, _⟩ := begins
  obtain ⟨_, _, _, stop, again, beyond, _, stops⟩ := ends
  obtain ⟨rfl, rfl⟩ := here.unique again
  exact ⟨lower, upper, start, stop, here, ⟨there.1, beyond.2⟩, starts, stops⟩

theorem NoLater.join_encloses {first middle last : Span} (begins : first.NoLater middle)
    (ends : middle.NoLater last) : (first.join last).Encloses middle := by
  obtain ⟨lower, _, start, stop, here, there, starts, _⟩ := begins
  obtain ⟨_, _, _, upper, again, beyond, _, stops⟩ := ends
  obtain ⟨rfl, rfl⟩ := there.unique again
  exact ⟨lower, upper, start, stop, ⟨here.1, beyond.2⟩, there, starts, stops⟩

end Span

/-- Tokens at known offsets, none of which ends after the next one begins. -/
structure LaidOut (tokens : List Token) : Prop where
  placed : ∀ token ∈ tokens, ∃ first last, token.span.Occupies first last ∧ first ≤ last
  inOrder : tokens.IsChain fun earlier later => ∃ last first,
    earlier.span.stop = some last ∧ later.span.start = some first ∧ last ≤ first

namespace LaidOut

variable {tokens : List Token} {token first last : Token}

theorem noLater_self (laid : LaidOut tokens) (member : token ∈ tokens) :
    token.span.NoLater token.span := by
  obtain ⟨start, stop, occupies, _⟩ := laid.placed token member
  exact ⟨start, stop, start, stop, occupies, occupies, Int.le_refl _, Int.le_refl _⟩

theorem pairwise_noLater (laid : LaidOut tokens) :
    tokens.Pairwise fun earlier later => earlier.span.NoLater later.span := by
  have next : tokens.IsChain fun earlier later => earlier.span.NoLater later.span := by
    refine laid.inOrder.imp_of_mem_imp ?_
    intro earlier later member laterMember follows
    obtain ⟨first, last, occupies, ascends⟩ := laid.placed earlier member
    obtain ⟨next, final, laterOccupies, laterAscends⟩ := laid.placed later laterMember
    obtain ⟨stop, start, ends, begins, apart⟩ := follows
    obtain rfl := Option.some.inj (occupies.2.symm.trans ends)
    obtain rfl := Option.some.inj (laterOccupies.1.symm.trans begins)
    exact ⟨first, last, next, final, occupies, laterOccupies, Int.le_trans ascends apart,
      Int.le_trans apart laterAscends⟩
  have : Trans (fun earlier later : Token => earlier.span.NoLater later.span)
      (fun earlier later : Token => earlier.span.NoLater later.span)
      fun earlier later : Token => earlier.span.NoLater later.span := ⟨Span.NoLater.trans⟩
  exact next.pairwise

theorem first_noLater (laid : LaidOut tokens) (begins : tokens.head? = some first)
    (member : token ∈ tokens) : first.span.NoLater token.span := by
  obtain ⟨rest, rfl⟩ := List.head?_eq_some_iff.mp begins
  rcases List.mem_cons.mp member with rfl | later
  · exact laid.noLater_self member
  · exact (List.pairwise_cons.mp laid.pairwise_noLater).1 token later

theorem noLater_last (laid : LaidOut tokens) (ends : tokens.getLast? = some last)
    (member : token ∈ tokens) : token.span.NoLater last.span := by
  obtain ⟨before, rfl⟩ := List.getLast?_eq_some_iff.mp ends
  rcases List.mem_append.mp member with earlier | same
  · exact (List.pairwise_append.mp laid.pairwise_noLater).2.2 token earlier last
      (List.mem_singleton_self _)
  · obtain rfl := List.mem_singleton.mp same
    exact laid.noLater_self member

theorem join_occupies (laid : LaidOut tokens) (begins : tokens.head? = some first)
    (ends : tokens.getLast? = some last) :
    ∃ start stop, (first.span.join last.span).Occupies start stop ∧ start ≤ stop := by
  obtain ⟨start, _, next, _, here, there, starts, _⟩ :=
    laid.first_noLater begins (List.mem_of_getLast? ends)
  obtain ⟨_, stop, occupies, ascends⟩ := laid.placed last (List.mem_of_getLast? ends)
  obtain ⟨rfl, -⟩ := there.unique occupies
  exact ⟨start, stop, ⟨here.1, occupies.2⟩, Int.le_trans starts ascends⟩

theorem join_encloses (laid : LaidOut tokens) (begins : tokens.head? = some first)
    (ends : tokens.getLast? = some last) (member : token ∈ tokens) :
    (first.span.join last.span).Encloses token.span :=
  (laid.first_noLater begins member).join_encloses (laid.noLater_last ends member)

end LaidOut

namespace Tree

/-- A tree and the trees below it, at any depth. -/
inductive Contains : Tree → Tree → Prop where
  | self (tree : Tree) : Contains tree tree
  | inside {tree child part : Tree} (member : .branch child ∈ tree.children)
      (inner : Contains child part) : Contains tree part

variable {tree part : Tree} {first last : Token} {outer : Span}

theorem Contains.tokens_sublist (contains : tree.Contains part) :
    part.tokens.Sublist tree.tokens := by
  induction contains with
  | self tree => exact List.Sublist.refl _
  | inside member _ ih => exact ih.trans (child_tokens_sublist member)

theorem exists_ends (present : tree.tokens ≠ []) :
    ∃ first last, tree.tokens.head? = some first ∧ tree.tokens.getLast? = some last :=
  ⟨_, _, List.head?_eq_some_head present, List.getLast?_eq_some_getLast present⟩

theorem span_of_ends (begins : tree.tokens.head? = some first)
    (ends : tree.tokens.getLast? = some last) : tree.span = .ok (first.span.join last.span) := by
  rw [span]
  split
  case h_1 token rest shown =>
    rw [shown] at begins ends
    obtain rfl := Option.some.inj begins
    rw [List.getLast?_eq_some_getLast (List.cons_ne_nil _ _)] at ends
    rw [Option.some.inj ends]
  case h_2 empty =>
    rw [empty] at begins
    cases begins

theorem span_total {token : Token} (member : token ∈ tree.tokens) :
    ∃ span, tree.span = .ok span := by
  obtain ⟨first, last, begins, ends⟩ := exists_ends (List.ne_nil_of_mem member)
  exact ⟨_, span_of_ends begins ends⟩

theorem span_start {token : Token} (member : token ∈ tree.tokens) {span : Span}
    (spanned : tree.span = .ok span) : ∃ first ∈ tree.tokens, span.start = first.span.start := by
  obtain ⟨first, last, begins, ends⟩ := exists_ends (List.ne_nil_of_mem member)
  rw [span_of_ends begins ends] at spanned
  cases spanned
  exact ⟨first, List.mem_of_head? begins, rfl⟩

/-- What a tree spans depends on the spans of its tokens only. -/
theorem span_of_same_spans {other : Tree} (present : tree.tokens ≠ [])
    (same : other.tokens.map (·.span) = tree.tokens.map (·.span)) : other.span = tree.span := by
  have alsoPresent : other.tokens ≠ [] := by
    intro empty
    rw [empty, List.map_nil, eq_comm, List.map_eq_nil_iff] at same
    exact present same
  obtain ⟨first, last, begins, ends⟩ := exists_ends present
  obtain ⟨otherFirst, otherLast, otherBegins, otherEnds⟩ := exists_ends alsoPresent
  have sameFirst : otherFirst.span = first.span := by
    have heads := congrArg List.head? same
    rwa [List.head?_map, List.head?_map, begins, otherBegins, Option.map_some, Option.map_some,
      Option.some.injEq] at heads
  have sameLast : otherLast.span = last.span := by
    have ends' := congrArg List.getLast? same
    rwa [List.getLast?_map, List.getLast?_map, ends, otherEnds, Option.map_some, Option.map_some,
      Option.some.injEq] at ends'
  rw [span_of_ends begins ends, span_of_ends otherBegins otherEnds, sameFirst, sameLast]

/-- Whether its tokens are in order or not, a tree spans nothing outside what encloses them. -/
theorem enclosed_of_tokens (present : tree.tokens ≠ [])
    (encloses : ∀ token ∈ tree.tokens, outer.Encloses token.span) :
    ∃ span, tree.span = .ok span ∧ outer.Encloses span := by
  obtain ⟨first, last, begins, ends⟩ := exists_ends present
  refine ⟨_, span_of_ends begins ends, ?_⟩
  exact (encloses first (List.mem_of_head? begins)).join
    (encloses last (List.mem_of_getLast? ends))

theorem span_eq_noPosition_iff (empty : tree.tokens = []) :
    (∃ rule, tree.span = .error (.noPosition rule)) ↔ tree.extent = .absent := by
  rw [span]
  split
  case h_1 shown => cases empty.symm.trans shown
  case h_2 _ => cases tree.extent <;> simp

end Tree

/-- A tree with tokens spans from the start of the first to the end of the last, and any other tree
with these tokens spans the same. Where the tokens are laid out one after the other, this is the
smallest span that encloses every one of them, and it encloses the span of every tree below that has
tokens. A tree without tokens has no span for want of a position exactly if none was recorded for
it, whatever was recorded for the trees below. -/
theorem span_covers_exactly_the_tokens (tree : Tree) :
    (tree.tokens ≠ [] → ∃ first last,
      tree.tokens.head? = some first ∧ tree.tokens.getLast? = some last ∧
      tree.span = .ok ⟨first.span.start, last.span.stop, first.span.line, first.span.column,
        last.span.endLine, last.span.endColumn⟩ ∧
      ∀ other : Tree, other.tokens = tree.tokens → other.span = tree.span) ∧
    (tree.tokens ≠ [] → LaidOut tree.tokens → ∃ span, tree.span = .ok span ∧
      (∃ first last, span.Occupies first last ∧ first ≤ last) ∧
      (∀ token ∈ tree.tokens, span.Encloses token.span) ∧
      (∀ outer : Span, (∀ token ∈ tree.tokens, outer.Encloses token.span) → outer.Encloses span) ∧
      ∀ part, tree.Contains part → part.tokens ≠ [] →
        ∃ inner, part.span = .ok inner ∧ span.Encloses inner) ∧
    (tree.tokens = [] →
      ((∃ rule, tree.span = .error (.noPosition rule)) ↔ tree.extent = .absent)) := by
  refine ⟨fun present => ?_, fun present laid => ?_, Tree.span_eq_noPosition_iff⟩
  · obtain ⟨first, last, begins, ends⟩ := Tree.exists_ends present
    exact ⟨first, last, begins, ends, Tree.span_of_ends begins ends,
      fun other same => Tree.span_of_same_spans present (congrArg (List.map (·.span)) same)⟩
  · obtain ⟨first, last, begins, ends⟩ := Tree.exists_ends present
    have encloses : ∀ token ∈ tree.tokens, (first.span.join last.span).Encloses token.span :=
      fun token => laid.join_encloses begins ends
    refine ⟨_, Tree.span_of_ends begins ends, laid.join_occupies begins ends, encloses, ?_, ?_⟩
    · intro outer around
      exact (around first (List.mem_of_head? begins)).join (around last (List.mem_of_getLast? ends))
    · intro part contains below
      exact Tree.enclosed_of_tokens below fun token member =>
        encloses token (contains.tokens_sublist.subset member)

namespace RaggedTree

def token (text : String) (start stop : Int) : Token where
  kind := "WORD"
  text
  span := ⟨some start, some stop, some 1, some (start + 1), some 1, some (stop + 1)⟩

/-- `[Title` with an absent child in front and a rule without tokens behind. -/
def named : Tree where
  rule := "field"
  children := [.absent, .leaf (token "[" 0 1), .leaf (token "Title" 1 6),
    .branch ⟨"value", [.absent], .absent⟩]
  extent := .incomplete

/-- A position that reaches further than any token. -/
def recorded : Extent :=
  .complete ⟨some 0, some 20, none, none, none, none⟩

/-- The last token is empty. -/
def query : Tree where
  rule := "condition"
  children := [.branch ⟨"operator", [], recorded⟩, .absent, .branch named,
    .leaf (token "" 9 9), .branch ⟨"value_list", [], .absent⟩]
  extent := recorded

def flat : Tree where
  rule := "query"
  children := [.leaf (token "[" 0 1), .leaf (token "Title" 1 6), .leaf (token "" 9 9)]
  extent := .absent

/-- A position is recorded below, but not for the rule itself. -/
def empty : Tree where
  rule := "value"
  children := [.branch ⟨"value", [.absent], recorded⟩]
  extent := .absent

theorem query_laidOut : LaidOut query.tokens where
  placed := by
    simp only [List.forall_mem_cons, show query.tokens =
      [token "[" 0 1, token "Title" 1 6, token "" 9 9] from rfl]
    exact ⟨⟨0, 1, ⟨rfl, rfl⟩, by decide⟩, ⟨1, 6, ⟨rfl, rfl⟩, by decide⟩,
      ⟨9, 9, ⟨rfl, rfl⟩, by decide⟩, nofun⟩
  inOrder := .cons_cons ⟨1, 1, rfl, rfl, by decide⟩
    (.cons_cons ⟨6, 9, rfl, rfl, by decide⟩ (.singleton _))

theorem query_contains : query.Contains named :=
  .inside (by simp [query]) (.self named)

end RaggedTree

open RaggedTree in
theorem ragged_query_covered :
    query.span = .ok ⟨some 0, some 9, some 1, some 1, some 1, some 10⟩ ∧
      flat.span = query.span ∧
      (∃ span, query.span = .ok span ∧ (∀ token ∈ query.tokens, span.Encloses token.span) ∧
        ∃ inner, named.span = .ok inner ∧ span.Encloses inner) ∧
      ∃ rule, empty.span = .error (.noPosition rule) := by
  obtain ⟨joined, smallest, -⟩ := span_covers_exactly_the_tokens query
  have present : query.tokens ≠ [] := nofun
  obtain ⟨first, last, begins, ends, spanned, alike⟩ := joined present
  obtain ⟨span, again, -, encloses, -, parts⟩ := smallest present query_laidOut
  obtain ⟨-, -, placeless⟩ := span_covers_exactly_the_tokens empty
  cases begins
  cases ends
  exact ⟨spanned, alike flat rfl,
    ⟨span, again, encloses, parts named query_contains nofun⟩, (placeless rfl).mpr rfl⟩

end WorkItemQuery
