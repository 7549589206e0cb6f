import WorkItemQuery.Proofs.Check.Alike
import WorkItemQuery.Proofs.Tree.Written

/-!
# What a check does not look at

Two queries of one shape are checked alike if their names and variables are the same up to case: what
literals and operators are written with does not matter. Neither do the negations of operators. Main
statement: `spelling_and_negation_disregarded`.
-/

namespace WorkItemQuery

open Text

/-- The diagnostics of conditions and of others that correspond to them, one condition after the
other: they are at the same places, and the same where the names on the left are spelled the same. -/
inductive ReportsAlike (scope : Scope) :
    List Tree → List Tree → List Diagnostic → List Diagnostic → Prop where
  | nil : ReportsAlike scope [] [] [] []
  | cons {left right : Tree} {lefts rights : List Tree}
      {part other diagnostics others : List Diagnostic}
      (first : check scope (.branch left) = .ok part)
      (second : check scope (.branch right) = .ok other)
      (places : part.map (·.span) = other.map (·.span))
      (messages : left.writtenName? = right.writtenName? → part = other)
      (rest : ReportsAlike scope lefts rights diagnostics others) :
      ReportsAlike scope (left :: lefts) (right :: rights) (part ++ diagnostics) (other ++ others)

section Spelling

variable {scope : Scope} {lefts rights : List Tree} {diagnostics others : List Diagnostic}

theorem ReportsAlike.places (alike : ReportsAlike scope lefts rights diagnostics others) :
    diagnostics.map (·.span) = others.map (·.span) := by
  induction alike with
  | nil => rfl
  | cons _ _ places _ _ ih => rw [List.map_append, List.map_append, places, ih]

theorem ReportsAlike.eq_of_names (alike : ReportsAlike scope lefts rights diagnostics others)
    (names : lefts.map Tree.writtenName? = rights.map Tree.writtenName?) :
    diagnostics = others := by
  induction alike with
  | nil => rfl
  | cons _ _ _ messages _ ih =>
      obtain ⟨here, later⟩ := List.cons.inj names
      rw [messages here, ih later]

theorem alike_places {spelled : Prop}
    (alike : List.Forall₂ (Diagnostic.Alike spelled) diagnostics others) :
    diagnostics.map (·.span) = others.map (·.span) := by
  rw [← List.forall₂_eq_eq_eq, List.forall₂_map_left_iff, List.forall₂_map_right_iff]
  exact alike.imp fun _ _ each => each.span

theorem checks_of_cons {condition : Tree} {part : List Diagnostic}
    (given : checkCondition scope condition = .ok part) (rest : List Tree) :
    ((condition :: rest).mapM (checkCondition scope)).map List.flatten =
      ((rest.mapM (checkCondition scope)).map List.flatten).map (part ++ ·) := by
  rw [List.mapM_cons, given]
  cases rest.mapM (checkCondition scope) <;> rfl

theorem checks_alike (conditions : List.Forall₂ (Tree.Alike Token.Matches) lefts rights)
    (checked : ∀ condition ∈ lefts, isConditionRule condition.rule = true) :
    ExceptRel (ReportsAlike scope lefts rights)
      ((lefts.mapM (checkCondition scope)).map List.flatten)
      ((rights.mapM (checkCondition scope)).map List.flatten) := by
  induction conditions with
  | nil => exact .ok .nil
  | @cons left right lefts rights alike _ ih =>
      obtain ⟨here, later⟩ := List.forall_mem_cons.mp checked
      have there : isConditionRule right.rule = true := alike.rules.isConditionRule ▸ here
      rcases (alike.checkCondition scope).error_or_ok with
        ⟨error, first, second⟩ | ⟨part, other, first, second, same⟩
      · rw [List.mapM_cons, List.mapM_cons, first, second]
        exact .error error
      · rw [checks_of_cons first, checks_of_cons second]
        refine (ih later).map fun diagnostics others rest => ?_
        exact .cons ((check_condition here).trans first) ((check_condition there).trans second)
          (alike_places same) (alike_messages same) rest

theorem check_alike {left right : Node} (alike : left.Alike Token.Matches right) :
    ExceptRel (ReportsAlike scope left.conditions right.conditions) (check scope left)
      (check scope right) := by
  have conditions := alike.conditions
  cases alike with
  | absent => exact .error _
  | leaf _ => exact .ok .nil
  | @branch left right _ _ =>
      rw [check_branch, check_branch]
      refine checks_alike conditions fun condition member => ?_
      have outermost : Outermost (.branch left) condition := mem_conditions_iff_outermost.mp member
      exact outermost.isConditionRule

end Spelling

def Node.isNegation : Node → Bool
  | .leaf token => token.kind == "NOT"
  | _ => false

/-- Parts of a condition that are the same, or operators that differ in their negations. -/
inductive Node.SamePart : Node → Node → Prop where
  | same (node : Node) : SamePart node node
  | operator {left right : Tree} (rules : left.rule = right.rule)
      (operates : left.rule = "operator" ∨ left.rule = "in_operator")
      (unnegated : left.children.filter (!·.isNegation) = right.children.filter (!·.isNegation)) :
      SamePart (.branch left) (.branch right)

/-- Queries that differ in the negations of their outermost conditions' operators. -/
inductive Node.Renegated : Node → Node → Prop where
  | same (node : Node) : Renegated node node
  | condition {left right : Tree} (rules : left.rule = right.rule)
      (checked : isConditionRule left.rule = true)
      (parts : List.Forall₂ Node.SamePart left.children right.children) :
      Renegated (.branch left) (.branch right)
  | inside {left right : Tree} (rules : left.rule = right.rule)
      (outer : isConditionRule left.rule = false)
      (children : List.Forall₂ Renegated left.children right.children) :
      Renegated (.branch left) (.branch right)

section Negation

variable {left right : Tree} {scope : Scope}

/-- A negation writes no operator, so the search for one passes over it. -/
theorem findSome?_operator?_unnegated (nodes : List Node) :
    ((nodes.filter (!·.isNegation)).filterMap Node.token?).findSome? Token.operator? =
      (nodes.filterMap Node.token?).findSome? Token.operator? := by
  induction nodes with
  | nil => rfl
  | cons node rest ih =>
      cases node with
      | absent => exact ih
      | branch tree => exact ih
      | leaf token =>
          by_cases negates : token.kind = "NOT"
          · have silent : token.operator? = none := by
              rw [Token.operator?, negates]
              rfl
            simpa [Node.isNegation, Node.token?, negates, silent] using ih
          · have kept : (!(Node.leaf token).isNegation) = true := by
              simp [Node.isNegation, negates]
            have shown : (Node.leaf token).token? = some token := rfl
            simp only [List.filter_cons, kept, if_true, List.filterMap_cons, shown,
              List.findSome?_cons, ih]

theorem Node.SamePart.tree? {first second : Node} (part : first.SamePart second) :
    Option.Rel (fun left right => Node.SamePart (.branch left) (.branch right)) first.tree?
      second.tree? := by
  cases part with
  | same =>
      cases first with
      | absent => exact .none
      | leaf token => exact .none
      | branch tree => exact .some (.same _)
  | operator rules operates unnegated => exact .some (.operator rules operates unnegated)

theorem Node.SamePart.rule (part : Node.SamePart (.branch left) (.branch right)) :
    left.rule = right.rule := by
  cases part with
  | same => rfl
  | operator rules _ _ => exact rules

theorem Node.SamePart.operator?_eq (part : Node.SamePart (.branch left) (.branch right)) :
    left.operator? = right.operator? := by
  cases part with
  | same => rfl
  | operator _ _ unnegated =>
      rw [Tree.operator?, Tree.operator?, Tree.ownTokens, Tree.ownTokens,
        ← findSome?_operator?_unnegated, unnegated, findSome?_operator?_unnegated]

theorem Node.SamePart.eq_of_rule (part : Node.SamePart (.branch left) (.branch right))
    (outside : ¬ (left.rule = "operator" ∨ left.rule = "in_operator")) : left = right := by
  cases part with
  | same => rfl
  | operator _ operates _ => exact absurd operates outside

section Parts

variable (parts : List.Forall₂ Node.SamePart left.children right.children)

include parts

theorem child?_of_sameParts (rule : String) :
    Option.Rel (fun first second => Node.SamePart (.branch first) (.branch second))
      (left.child? rule) (right.child? rule) :=
  rel_find? (fun _ _ part => by rw [part.rule]) (List.rel_filterMap (fun _ _ part => part.tree?) parts)

theorem child?_eq_of_sameParts (rule : String)
    (outside : ¬ (rule = "operator" ∨ rule = "in_operator")) :
    left.child? rule = right.child? rule := by
  have children := child?_of_sameParts parts rule
  cases found : left.child? rule with
  | none =>
      rw [found] at children
      generalize right.child? rule = other at children
      cases children
      rfl
  | some part =>
      have rules : part.rule = rule := by simpa using List.find?_some found
      rw [found] at children
      generalize right.child? rule = other at children
      cases children with
      | some same => rw [same.eq_of_rule (rules ▸ outside)]

theorem subject?_of_sameParts (lookup : FieldLookup) :
    left.subject? lookup = right.subject? lookup := by
  rw [Tree.subject?, Tree.subject?, child?_eq_of_sameParts parts "field" (by decide)]

theorem lacks_of_sameParts {rule : String} (missing : Lacks left rule) : Lacks right rule := by
  have children := child?_of_sameParts parts rule
  rw [Tree.child?_eq_none_iff.mpr missing] at children
  generalize found : right.child? rule = other at children
  cases children
  exact Tree.child?_eq_none_iff.mp found

theorem firstOperator_of_sameParts {rule : String} {operator : Tree}
    (first : FirstChild left rule operator) :
    ∃ other, FirstChild right rule other ∧ operator.operator? = other.operator? := by
  have children := child?_of_sameParts parts rule
  rw [Tree.child?_eq_some_iff.mpr first] at children
  generalize found : right.child? rule = other at children
  cases children with
  | some same => exact ⟨_, Tree.child?_eq_some_iff.mp found, same.operator?_eq⟩

theorem firstOperand_of_sameParts {rule : String} {operand : Tree}
    (outside : ¬ (rule = "operator" ∨ rule = "in_operator")) (first : FirstChild left rule operand) :
    FirstChild right rule operand :=
  Tree.child?_eq_some_iff.mp
    ((child?_eq_of_sameParts parts rule outside).symm.trans (Tree.child?_eq_some_iff.mpr first))

theorem readForm_of_sameParts (name : Token) (rules : OperatorRules) :
    Condition.readForm left name rules = Condition.readForm right name rules := by
  rcases both_or_either_lacks left "operator" "value" with
    ⟨operator, value, first, second⟩ | incomplete
  · obtain ⟨other, otherFirst, same⟩ := firstOperator_of_sameParts parts first
    rw [Condition.readForm_comparison first second, Condition.readForm_comparison otherFirst
      (firstOperand_of_sameParts parts (by decide) second), same]
  · have otherIncomplete :=
      incomplete.imp (lacks_of_sameParts parts) (lacks_of_sameParts parts)
    rcases both_or_either_lacks left "in_operator" "value_list" with
      ⟨operator, list, first, second⟩ | unlisted
    · obtain ⟨other, otherFirst, same⟩ := firstOperator_of_sameParts parts first
      rw [Condition.readForm_membership incomplete first second,
        Condition.readForm_membership otherIncomplete otherFirst
          (firstOperand_of_sameParts parts (by decide) second), same]
    · have otherUnlisted := unlisted.imp (lacks_of_sameParts parts) (lacks_of_sameParts parts)
      rw [Condition.readForm_formless incomplete unlisted,
        Condition.readForm_formless otherIncomplete otherUnlisted]

theorem checkCondition_of_sameParts : checkCondition scope left = checkCondition scope right := by
  have read : Condition.read scope.lookup left = Condition.read scope.lookup right := by
    rw [Condition.read, Condition.read, subject?_of_sameParts parts]
    cases right.subject? scope.lookup with
    | none => rfl
    | some subject => exact readForm_of_sameParts parts subject.1 subject.2
  rw [checkCondition, checkCondition, read]

end Parts

theorem Node.Renegated.conditions {first second : Node} (renegated : first.Renegated second)
    (scope : Scope) :
    List.Forall₂ (fun left right => checkCondition scope left = checkCondition scope right)
      first.conditions second.conditions := by
  -- only above the conditions does the induction go on: their parts are compared as they stand
  induction first using Node.childInduction generalizing second with
  | absent =>
      cases renegated
      exact .nil
  | leaf token =>
      cases renegated
      exact .nil
  | branch tree ih =>
      cases renegated with
      | same => exact List.forall₂_same.mpr fun _ _ => rfl
      | @condition _ right rules checked parts =>
          rw [Node.conditions, Node.conditions, Tree.conditions_eq, Tree.conditions_eq,
            if_pos checked, if_pos (rules ▸ checked)]
          exact .cons (checkCondition_of_sameParts parts) .nil
      | @inside _ right rules outer children =>
          rw [Node.conditions, Node.conditions, Tree.conditions_eq, Tree.conditions_eq, ← rules,
            outer, conditionsOf_eq_flatMap, conditionsOf_eq_flatMap]
          have below := (List.forall₂_and_left _ _).mpr ⟨ih, children⟩
          exact List.rel_flatMap below fun _ _ child => child.1 child.2

theorem check_of_renegated {first second : Node} (renegated : first.Renegated second) :
    check scope first = check scope second := by
  have conditions := renegated.conditions scope
  have reports : (first.conditions.mapM (checkCondition scope)).map List.flatten =
      (second.conditions.mapM (checkCondition scope)).map List.flatten :=
    congrArg (Except.map List.flatten) (mapM_congr_of_forall₂ conditions)
  cases renegated with
  | same => rfl
  | condition _ _ _ =>
      rw [check_branch, check_branch]
      exact reports
  | inside _ _ _ =>
      rw [check_branch, check_branch]
      exact reports

end Negation

theorem spelling_and_negation_disregarded (scope : Scope) :
    (∀ left right : Node, left.Alike Token.Matches right →
      ExceptRel (fun diagnostics others =>
          diagnostics.map (·.span) = others.map (·.span) ∧
          (left.conditions.map Tree.writtenName? = right.conditions.map Tree.writtenName? →
            diagnostics = others) ∧
          ReportsAlike scope left.conditions right.conditions diagnostics others)
        (check scope left) (check scope right)) ∧
    ∀ left right : Node, left.Renegated right → check scope left = check scope right := by
  constructor
  · intro left right alike
    exact (check_alike alike).imp fun _ _ reports => ⟨reports.places, reports.eq_of_names, reports⟩
  · intro left right renegated
    exact check_of_renegated renegated

namespace Notes

def scope : Scope where
  lookup := ⟨⟨[("title", .typed .string), ("notes", .typed .plainText)]⟩⟩
  variableTable := VariableTable.predefined

/-- `[Title] = 5` -/
def titled (name literal : String) : Tree :=
  .ofComparison (.startingAt 0 "IDENTIFIER" name) (.startingAt 8 "EQUALS" "=")
    (.scalar (.startingAt 10 "NUMBER" literal))

def negation : Node :=
  .leaf (.startingAt 24 "NOT" "Not")

def contains (text : String) : Token :=
  .startingAt 28 "CONTAINS" text

/-- `[Notes] Contains [Title]`, with negations before the operator -/
def noted (name operator title : String) (negations : List Node) : Tree where
  rule := "condition"
  children :=
    [.branch (.around "field" (.startingAt 16 "IDENTIFIER" name)),
     .branch ⟨"operator", negations ++ [.leaf (contains operator)], .absent⟩,
     .branch ⟨"value", [.branch (.around "field" (.startingAt 38 "IDENTIFIER" title))], .absent⟩]
  extent := .absent

def query (first second : Tree) : Node :=
  .branch ⟨"where_clause", [.branch first, .branch second], .absent⟩

def written : Node :=
  query (titled "Title" "5") (noted "Notes" "Contains" "Title" [])

def respelled : Node :=
  query (titled "TITLE" "70") (noted "NOTES" "contains" "title" [])

def negated : Node :=
  query (titled "Title" "5") (noted "Notes" "Contains" "Title" [negation])

theorem name_matches {text other : String} (same : lowercase text = lowercase other) (start : Int) :
    (Token.startingAt start "IDENTIFIER" text).Matches (.startingAt start "IDENTIFIER" other) :=
  ⟨rfl, rfl, fun _ => same⟩

theorem unnamed_matches {kind : String} (unnamed : ¬ (kind = "IDENTIFIER" ∨ kind = "VARIABLE"))
    (text other : String) (start : Int) :
    (Token.startingAt start kind text).Matches (.startingAt start kind other) :=
  ⟨rfl, rfl, fun named => absurd named unnamed⟩

theorem written_alike : written.Alike Token.Matches respelled := by
  have titles : lowercase "Title" = lowercase "TITLE" := by decide
  have lowered : lowercase "Title" = lowercase "title" := by decide
  have notes : lowercase "Notes" = lowercase "NOTES" := by decide
  have first : (titled "Title" "5").Alike Token.Matches (titled "TITLE" "70") :=
    .branch (.inl rfl) (.cons (Tree.around_alike (name_matches titles 0) "field")
      (.cons (Tree.around_alike (.refl _) "operator")
        (.cons (Tree.around_alike (unnamed_matches (by decide) "5" "70" 10) "value") .nil)))
  have second : (noted "Notes" "Contains" "Title" []).Alike Token.Matches
      (noted "NOTES" "contains" "title" []) :=
    .branch (.inl rfl) (.cons (Tree.around_alike (name_matches notes 16) "field")
      (.cons (Tree.around_alike (unnamed_matches (by decide) "Contains" "contains" 28) "operator")
        (.cons (.branch (.inl rfl)
          (.cons (Tree.around_alike (name_matches lowered 38) "field") .nil)) .nil)))
  exact .branch (.inl rfl) (.cons first (.cons second .nil))

theorem written_renegated : written.Renegated negated := by
  have operators : Node.SamePart (.branch ⟨"operator", [.leaf (contains "Contains")], .absent⟩)
      (.branch ⟨"operator", [negation, .leaf (contains "Contains")], .absent⟩) :=
    .operator rfl (.inl rfl) rfl
  have second : Node.Renegated (.branch (noted "Notes" "Contains" "Title" []))
      (.branch (noted "Notes" "Contains" "Title" [negation])) :=
    .condition rfl rfl (.cons (.same _) (.cons operators (.cons (.same _) .nil)))
  exact .inside rfl rfl (.cons (.same _) (.cons second .nil))

end Notes

open Notes in
theorem respelled_query_quotes_other_name :
    let wrongKind := Diagnostic.atToken (.startingAt 10 "NUMBER" "5") (Message.expectedValue .string)
    let noOperation (name : String) :=
      Diagnostic.atToken (contains "Contains") (Message.noOperation name .field)
    written.Alike Token.Matches respelled ∧ written.Renegated negated ∧
      check scope written = .ok [wrongKind, noOperation "Notes"] ∧
      check scope respelled = .ok [wrongKind, noOperation "NOTES"] ∧
      ReportsAlike scope written.conditions respelled.conditions
        [wrongKind, noOperation "Notes"] [wrongKind, noOperation "NOTES"] ∧
      check scope negated = .ok [wrongKind, noOperation "Notes"] := by
  intro wrongKind noOperation
  have first : check scope written = .ok [wrongKind, noOperation "Notes"] := rfl
  have second : check scope respelled = .ok [wrongKind, noOperation "NOTES"] := rfl
  obtain ⟨respell, renegate⟩ := spelling_and_negation_disregarded scope
  have reports := respell written respelled written_alike
  rw [first, second] at reports
  cases reports with
  | ok given =>
      exact ⟨written_alike, written_renegated, first, second, given.2.2,
        (renegate written negated written_renegated).symm.trans first⟩

end WorkItemQuery
