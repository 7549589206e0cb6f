import WorkItemQuery.Proofs.Check.Walk
import WorkItemQuery.Proofs.Condition
import WorkItemQuery.Proofs.Span.Sorting
import WorkItemQuery.Proofs.Tree.Span

/-!
# Diagnostics in source order

Each diagnostic starts where some token of the query does, and the diagnostics of a query start at
tokens that follow one another in the source. Where tokens have ascending starts, so have the
diagnostics. Main statement: `diagnostics_ascend`.
-/

namespace WorkItemQuery

/-- Tokens whose starts are known and ascend. -/
def StartsAscend (tokens : List Token) : Prop :=
  tokens.Pairwise fun earlier later => ∃ first second,
    earlier.span.start = some first ∧ later.span.start = some second ∧ first < second

def Node.carries (rule : String) : Node → Bool
  | .branch tree => tree.rule == rule
  | _ => false

/-- Where a tree has children of both rules, its first child of one rule stands before its first
child of the other. -/
def StandsBefore (tree : Tree) (earlier later : String) : Prop :=
  ∀ place ∈ tree.children.findIdx? (Node.carries earlier),
    ∀ other ∈ tree.children.findIdx? (Node.carries later), place < other

/-- The diagnostics start, one by one, at tokens that come in this order. -/
def Anchored (tokens : List Token) (diagnostics : List Diagnostic) : Prop :=
  ∃ anchors : List Token, anchors.Sublist tokens ∧
    diagnostics.map (·.span.start) = anchors.map (·.span.start)

namespace Anchored

variable {tokens others : List Token} {diagnostics : List Diagnostic}

theorem nil : Anchored tokens [] :=
  ⟨[], List.nil_sublist _, rfl⟩

theorem single {token : Token} {diagnostic : Diagnostic} (member : token ∈ tokens)
    (starts : diagnostic.span.start = token.span.start) : Anchored tokens [diagnostic] :=
  ⟨[token], List.singleton_sublist.mpr member, by rw [List.map_singleton, starts]; rfl⟩

theorem of_sublist (anchored : Anchored tokens diagnostics) (part : tokens.Sublist others) :
    Anchored others diagnostics := by
  obtain ⟨anchors, among, starts⟩ := anchored
  exact ⟨anchors, among.trans part, starts⟩

theorem append {later : List Diagnostic} (first : Anchored tokens diagnostics)
    (second : Anchored others later) : Anchored (tokens ++ others) (diagnostics ++ later) := by
  obtain ⟨anchors, among, starts⟩ := first
  obtain ⟨laterAnchors, laterAmong, laterStarts⟩ := second
  refine ⟨anchors ++ laterAnchors, among.append laterAmong, ?_⟩
  rw [List.map_append, List.map_append, starts, laterStarts]

theorem toList {fault : Option Diagnostic}
    (starts : ∀ diagnostic, fault = some diagnostic →
      ∃ token ∈ tokens, diagnostic.span.start = token.span.start) :
    Anchored tokens fault.toList := by
  cases fault with
  | none => exact nil
  | some diagnostic =>
      obtain ⟨token, member, start⟩ := starts diagnostic rfl
      exact single member start

theorem flatten {α : Type} {view : α → List Token} {items : List α}
    {parts : List (List Diagnostic)}
    (each : List.Forall₂ (fun item part => Anchored (view item) part) items parts) :
    Anchored (items.flatMap view) parts.flatten := by
  induction each with
  | nil => exact nil
  | cons first _ ih =>
      rw [List.flatMap_cons, List.flatten_cons]
      exact first.append ih

theorem ascending (anchored : Anchored tokens diagnostics) (starts : StartsAscend tokens) :
    (diagnostics.map (·.span)).Pairwise fun left right => left.lt? right = some true := by
  obtain ⟨anchors, among, same⟩ := anchored
  have ordered : (anchors.map (·.span.start)).Pairwise fun left right =>
      ∃ first second : Int, left = some first ∧ right = some second ∧ first < second :=
    List.pairwise_map.mpr (starts.sublist among)
  rw [← same, List.pairwise_map] at ordered
  refine List.pairwise_map.mpr (ordered.imp ?_)
  intro left right follows
  obtain ⟨first, second, start, later, below⟩ := follows
  exact Span.lt?_of_start start later below

end Anchored

section Faults

variable {lookup : FieldLookup} {table : VariableTable} {rules : OperatorRules} {name : Token}
  {expected : DeclaredType} {diagnostic : Diagnostic}

theorem operatorFault?_span {operator : Token × Operator} {side : RightSide}
    (fault : operatorFault? rules name operator side = some diagnostic) :
    diagnostic.span = operator.1.span := by
  simp only [operatorFault?] at fault
  split at fault
  · cases fault
    rfl
  · split at fault
    · cases fault
    · cases fault
      rfl

theorem groupFault?_span {operator : Option (Token × Operator)}
    (fault : groupFault? rules name operator = some diagnostic) :
    diagnostic.span = ((operator.map (·.1)).getD name).span := by
  simp only [groupFault?] at fault
  split at fault
  · cases fault
    rfl
  · split at fault
    · cases fault
    · cases fault
      rfl

theorem fieldFault?_span {target : Tree}
    (fault : fieldFault? lookup expected target = some diagnostic) :
    ∃ token ∈ target.tokens, diagnostic.span = token.span := by
  obtain ⟨name, named, found⟩ := Option.bind_eq_some_iff.mp fault
  obtain ⟨entry, _, given⟩ := Option.bind_eq_some_iff.mp found
  split at given
  · cases given
  · cases given
    exact ⟨name, (Tree.identifier?_eq_some_iff.mp named).mem, rfl⟩

theorem kindFault?_span {kind : ValueKind} {actual : Option ValueKind} {token : Token}
    (fault : kindFault? kind actual token = some diagnostic) : diagnostic.span = token.span := by
  rw [kindFault?] at fault
  split at fault
  · cases fault
  · cases fault
    rfl

theorem valueFault_span {token : Token}
    (fault : valueFault table expected token = .ok (some diagnostic)) :
    diagnostic.span = token.span := by
  obtain ⟨kind, _, given⟩ := bind_eq_ok_iff.mp fault
  split at given
  · split at given
    · cases given
    · obtain ⟨held, _, same⟩ := bind_eq_ok_iff.mp given
      exact kindFault?_span (Except.ok.inj same)
  · exact kindFault?_span (Except.ok.inj given)

/-- A fault in a list is at the operand of the value, in which there are tokens. -/
theorem listedFault_anchored {value : Tree}
    (fault : listedFault table expected value = .ok (some diagnostic)) :
    ∃ operand, value.operand = .ok (some operand) ∧ operand.node.span = .ok diagnostic.span ∧
      ∃ token, token ∈ operand.node.tokens := by
  obtain ⟨operand, read, given⟩ := bind_eq_ok_iff.mp fault
  cases operand with
  | none => cases given
  | some operand =>
      refine ⟨operand, read, ?_⟩
      cases operand with
      | scalar token =>
          exact ⟨congrArg Except.ok (valueFault_span given).symm, token, List.mem_singleton_self _⟩
      | field tree =>
          change (if tree.identifier?.isSome then _ else _) = _ at given
          cases named : tree.identifier? with
          | none =>
              rw [named] at given
              cases given
          | some name =>
              rw [named] at given
              obtain ⟨placed, spanned, same⟩ := map_eq_ok_iff.mp given
              obtain ⟨span, found, rfl⟩ := map_eq_ok_iff.mp spanned
              cases same
              exact ⟨found, name, (Tree.identifier?_eq_some_iff.mp named).mem⟩

theorem listedFault_start {value : Tree}
    (fault : listedFault table expected value = .ok (some diagnostic)) :
    ∃ token ∈ value.tokens, diagnostic.span.start = token.span.start := by
  obtain ⟨operand, read, spanned, token, below⟩ := listedFault_anchored fault
  have part := child_tokens_sublist (operandAmong_mem read)
  cases operand with
  | scalar literal => exact ⟨literal, part.subset (List.mem_singleton_self _),
      congrArg Span.start (Except.ok.inj spanned).symm⟩
  | field tree =>
      obtain ⟨first, among, start⟩ := Tree.span_start below spanned
      exact ⟨first, part.subset among, start⟩

end Faults

theorem Node.carries_iff {rule : String} {node : Node} :
    node.carries rule = true ↔ node.HasRule rule := by
  cases node <;> simp [carries, HasRule]

theorem IsFirst.findIdx?_eq {rule : String} {nodes before after : List Node} {node : Node}
    (split : nodes = before ++ node :: after) (here : node.HasRule rule)
    (quiet : ∀ earlier ∈ before, ¬ earlier.HasRule rule) :
    nodes.findIdx? (Node.carries rule) = some before.length := by
  have missing : before.findIdx? (Node.carries rule) = none :=
    List.findIdx?_eq_none_iff.mpr fun earlier member => by
      simpa [← Node.carries_iff] using quiet earlier member
  rw [split, List.findIdx?_append, missing, List.findIdx?_cons, Node.carries_iff.mpr here]
  simp

/-- The child that stands before is found before the other child. -/
theorem StandsBefore.split {tree first second : Tree} {earlier later : String}
    (stands : StandsBefore tree earlier later) (one : FirstChild tree earlier first)
    (other : FirstChild tree later second) :
    ∃ before after, tree.children = before ++ .branch second :: after ∧ .branch first ∈ before := by
  obtain ⟨before, after, split, here, quiet⟩ := other
  obtain ⟨ahead, behind, splitAhead, there, quietAhead⟩ := one
  have below : ahead.length < before.length :=
    stands _ (IsFirst.findIdx?_eq splitAhead there quietAhead) _
      (IsFirst.findIdx?_eq split here quiet)
  refine ⟨before, after, split, ?_⟩
  have at_ahead : tree.children[ahead.length]? = some (.branch first) := by
    rw [splitAhead, List.getElem?_append_right (Nat.le_refl _), Nat.sub_self]
    rfl
  rw [split, List.getElem?_append_left below] at at_ahead
  exact List.mem_of_getElem? at_ahead

section Condition

variable {scope : Scope} {rules : OperatorRules} {name : Token} {diagnostics : List Diagnostic}
  {condition : Tree}

theorem comparison_anchored {operator value : Tree} {token : Token} {written : Operator}
    {operand : Operand} (writes : Writes operator token written)
    (read : value.operand = .ok (some operand)) {tokens : List Token}
    (operatorPart : operator.tokens.Sublist tokens) (valuePart : value.tokens.Sublist tokens)
    (checked : (Condition.comparison rules name (token, written) operand).check scope =
      .ok diagnostics) : Anchored tokens diagnostics := by
  rw [Condition.check] at checked
  cases fault : operatorFault? rules name (token, written) operand.side with
  | some diagnostic =>
      rw [fault] at checked
      cases checked
      have member : token ∈ tokens := operatorPart.subset (own_token_mem writes.1.mem)
      exact .single member (congrArg Span.start (operatorFault?_span fault))
  | none =>
      rw [fault] at checked
      obtain ⟨found, given, rfl⟩ := map_eq_ok_iff.mp checked
      refine (Anchored.toList ?_).of_sublist valuePart
      intro diagnostic same
      subst same
      have member := operandAmong_mem read
      cases operand with
      | scalar literal =>
          exact ⟨literal, own_token_mem member, congrArg Span.start (valueFault_span given)⟩
      | field target =>
          obtain ⟨right, below, span⟩ := fieldFault?_span (Except.ok.inj given)
          exact ⟨right, (child_tokens_sublist member).subset below, congrArg Span.start span⟩

theorem membership_anchored {operator : Option (Token × Operator)} {list : Tree}
    {tokens : List Token} (anchored : (operator.map (·.1)).getD name ∈ tokens)
    (checked : (Condition.membership rules name operator list.values).check scope =
      .ok diagnostics) : Anchored (tokens ++ list.tokens) diagnostics := by
  obtain ⟨faults, searched, same⟩ := bind_eq_ok_iff.mp checked
  cases same
  have group : Anchored tokens (groupFault? rules name operator).toList :=
    .toList fun diagnostic fault => ⟨_, anchored, congrArg Span.start (groupFault?_span fault)⟩
  have listed : Anchored (list.values.flatMap Tree.tokens) (faults.filterMap id) := by
    rw [List.filterMap_eq_flatMap_toList]
    refine .flatten (List.forall₂_map_right_iff.mpr ?_)
    refine (mapM_eq_ok_iff.mp searched).imp fun value fault given => .toList ?_
    intro diagnostic same
    subst same
    exact listedFault_start given
  exact group.append (listed.of_sublist (values_tokens_sublist list))

theorem readForm_comparison_anchored {operator value : Tree}
    (first : FirstChild condition "operator" operator) (second : FirstChild condition "value" value)
    {read : Condition} (given : Condition.readForm condition name rules = .ok read)
    (checked : read.check scope = .ok diagnostics) : Anchored condition.tokens diagnostics := by
  rw [Condition.readForm_comparison first second] at given
  obtain ⟨operand, found, rfl⟩ := map_eq_ok_iff.mp given
  cases written : operator.operator? with
  | none =>
      rw [written] at checked
      cases checked
      exact .nil
  | some pair =>
      rw [written] at checked
      cases operand with
      | none =>
          cases checked
          exact .nil
      | some operand =>
          exact comparison_anchored (Tree.operator?_eq_some_iff.mp written) found
            first.tokens_sublist second.tokens_sublist checked

theorem readForm_membership_anchored {field operator list : Tree}
    (incomplete : Lacks condition "operator" ∨ Lacks condition "value")
    (left : FirstChild condition "field" field) (named : Names field name)
    (first : FirstChild condition "in_operator" operator)
    (second : FirstChild condition "value_list" list)
    (fieldsFirst : StandsBefore condition "field" "value_list")
    (operatorsFirst : StandsBefore condition "in_operator" "value_list")
    {read : Condition} (given : Condition.readForm condition name rules = .ok read)
    (checked : read.check scope = .ok diagnostics) : Anchored condition.tokens diagnostics := by
  rw [Condition.readForm_membership incomplete first second] at given
  cases given
  -- the anchor of the operator's fault stands before the list, whichever of the two it is
  have ahead : ∃ before after, condition.children = before ++ .branch list :: after ∧
      (operator.operator?.map (·.1)).getD name ∈ before.flatMap Node.tokens := by
    cases written : operator.operator? with
    | none =>
        obtain ⟨before, after, split, member⟩ := fieldsFirst.split left second
        exact ⟨before, after, split, List.mem_flatMap.mpr ⟨_, member, named.mem⟩⟩
    | some pair =>
        obtain ⟨before, after, split, member⟩ := operatorsFirst.split first second
        have own := own_token_mem (Tree.operator?_eq_some_iff.mp written).1.mem
        exact ⟨before, after, split, List.mem_flatMap.mpr ⟨_, member, own⟩⟩
  obtain ⟨before, after, split, anchored⟩ := ahead
  refine (membership_anchored anchored checked).of_sublist ?_
  rw [condition.tokens_eq, tokensOf_eq_flatMap, split, List.flatMap_append, List.flatMap_cons]
  exact (List.Sublist.refl _).append (List.sublist_append_left _ _)

theorem condition_anchored (fieldsFirst : StandsBefore condition "field" "value_list")
    (operatorsFirst : StandsBefore condition "in_operator" "value_list")
    (checked : checkCondition scope condition = .ok diagnostics) :
    Anchored condition.tokens diagnostics := by
  obtain ⟨read, given, checked⟩ := bind_eq_ok_iff.mp checked
  rw [Condition.read] at given
  cases subject : condition.subject? scope.lookup with
  | none =>
      rw [subject] at given
      cases given
      cases checked
      exact .nil
  | some known =>
      obtain ⟨name, rules⟩ := known
      obtain ⟨field, entry, left, named, _, _⟩ := Tree.subject?_eq_some_iff.mp subject
      simp only [subject] at given
      rcases both_or_either_lacks condition "operator" "value" with
        ⟨operator, value, first, second⟩ | incomplete
      · exact readForm_comparison_anchored first second given checked
      · rcases both_or_either_lacks condition "in_operator" "value_list" with
          ⟨operator, list, first, second⟩ | unlisted
        · exact readForm_membership_anchored incomplete left named first second fieldsFirst
            operatorsFirst given checked
        · rw [Condition.readForm_formless incomplete unlisted] at given
          cases given
          cases checked
          exact .nil

end Condition

theorem query_anchored {scope : Scope} {query : Node} {diagnostics : List Diagnostic}
    (arranged : ∀ condition, Outermost query condition →
      StandsBefore condition "field" "value_list" ∧
        StandsBefore condition "in_operator" "value_list")
    (checked : check scope query = .ok diagnostics) : Anchored query.tokens diagnostics := by
  cases query with
  | absent => cases checked
  | leaf token =>
      cases checked
      exact .nil
  | branch query =>
      rw [check_branch] at checked
      obtain ⟨parts, each, rfl⟩ := map_eq_ok_iff.mp checked
      refine (Anchored.flatten ?_).of_sublist (conditions_tokens_sublist (.branch query))
      have checks := (List.forall₂_and_left _ _).mpr
        ⟨fun condition member => arranged condition (mem_conditions_iff_outermost.mp member),
          mapM_eq_ok_iff.mp each⟩
      exact checks.imp fun condition part found =>
        condition_anchored found.1.1 found.1.2 found.2

/-- Where the tokens of a query ascend, and no condition has its list before its field or before its
group operator, the diagnostics ascend too: they are sorted as they come, and none is at the place
of another. -/
theorem diagnostics_ascend {scope : Scope} {query : Node} {diagnostics : List Diagnostic}
    (ascending : StartsAscend query.tokens)
    (arranged : ∀ condition, Outermost query condition →
      StandsBefore condition "field" "value_list" ∧
        StandsBefore condition "in_operator" "value_list")
    (checked : check scope query = .ok diagnostics) :
    let spans := diagnostics.map (·.span)
    spans.Pairwise (fun left right => left.lt? right = some true) ∧
      Span.sort? spans = some spans ∧ spans.Nodup := by
  have ordered := (query_anchored arranged checked).ascending ascending
  exact ⟨ordered, Span.sort?_of_ascending ordered, ordered.imp Span.ne_of_lt?⟩

namespace LostOperator

def lookup : FieldLookup where
  entries := ⟨[("title", .typed .string)]⟩

def token (kind text : String) (start : Int) : Token where
  kind
  text
  span := ⟨some start, none, none, none, none, none⟩

def name : Token :=
  token "IDENTIFIER" "Title" 0

def five : Token :=
  token "NUMBER" "5" 9

def listedName : Token :=
  token "IDENTIFIER" "Title" 12

/-- `[Title] (5, [Title])`, which has lost its `In`. -/
def condition : Tree where
  rule := "condition"
  children :=
    [.branch ⟨"field", [.leaf name], .absent⟩,
     .branch ⟨"in_operator", [], .absent⟩,
     .branch ⟨"value_list",
       [.branch ⟨"value", [.leaf five], .absent⟩,
        .branch ⟨"value", [.branch ⟨"field", [.leaf listedName], .absent⟩], .absent⟩], .absent⟩]
  extent := .absent

def scope : Scope :=
  ⟨lookup, VariableTable.predefined⟩

def diagnostics : List Diagnostic :=
  [.atToken name (Message.validComparisons [.isIn]),
   .atToken five (Message.expectedValue .string),
   .atToken listedName Message.literalsOnly]

theorem condition_ascends : StartsAscend (Node.branch condition).tokens := by
  have tokens : (Node.branch condition).tokens = [name, five, listedName] := rfl
  rw [tokens]
  simp [StartsAscend, name, five, listedName, token]

theorem condition_arranged (earlier : String)
    (first : earlier = "field" ∨ earlier = "in_operator") :
    StandsBefore condition earlier "value_list" := by
  intro place found other later
  have last : condition.children.findIdx? (Node.carries "value_list") = some 2 := rfl
  rw [last] at later
  cases later
  rcases first with rfl | rfl
  · have here : condition.children.findIdx? (Node.carries "field") = some 0 := rfl
    rw [here] at found
    cases found
    decide
  · have here : condition.children.findIdx? (Node.carries "in_operator") = some 1 := rfl
    rw [here] at found
    cases found
    decide

end LostOperator

open LostOperator in
theorem lost_operator_before_listed_values :
    check scope (.branch condition) = .ok diagnostics ∧
      StartsAscend (Node.branch condition).tokens ∧
      (∀ inner, Outermost (.branch condition) inner →
        StandsBefore inner "field" "value_list" ∧ StandsBefore inner "in_operator" "value_list") ∧
      Span.sort? (diagnostics.map (·.span)) = some (diagnostics.map (·.span)) := by
  have checked : check scope (.branch condition) = .ok diagnostics := rfl
  have arranged : ∀ inner, Outermost (.branch condition) inner →
      StandsBefore inner "field" "value_list" ∧ StandsBefore inner "in_operator" "value_list" := by
    intro inner outermost
    have same : inner = condition := List.mem_singleton.mp outermost.mem_conditions
    subst same
    exact ⟨condition_arranged _ (.inl rfl), condition_arranged _ (.inr rfl)⟩
  exact ⟨checked, condition_ascends, arranged,
    (diagnostics_ascend condition_ascends arranged checked).2.1⟩

end WorkItemQuery
