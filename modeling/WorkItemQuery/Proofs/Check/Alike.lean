import WorkItemQuery.Proofs.Check.Walk
import WorkItemQuery.Proofs.Condition
import WorkItemQuery.Proofs.Tree.Alike
import WorkItemQuery.Proofs.Tree.Span

/-!
# Checks of alike conditions

Conditions of one shape, in which one token can be exchanged for another, are checked alike: both
raise one error, or both give the same diagnostics at the same places. Only where a message quotes
the name of the field on the left does its spelling show.
-/

namespace WorkItemQuery

open Text

/-- Tokens of one kind at one place. Names and variables may differ in case, and other tokens may
have any text. -/
structure Token.Matches (left right : Token) : Prop where
  kind : left.kind = right.kind
  span : left.span = right.span
  spelling : left.kind = "IDENTIFIER" ∨ left.kind = "VARIABLE" →
    lowercase left.text = lowercase right.text

theorem Token.Matches.refl (token : Token) : token.Matches token :=
  ⟨rfl, rfl, fun _ => rfl⟩

/-- Tokens that a check cannot tell apart, except by the case of a name that a message quotes. -/
structure Token.Exchangeable (table : VariableTable) (left right : Token) : Prop where
  span : left.span = right.span
  identifies : left.isIdentifier = right.isIdentifier
  spelling : left.isIdentifier = true → lowercase left.text = lowercase right.text
  operator : Operator.ofTerminal? left.kind = Operator.ofTerminal? right.kind
  fault : ∀ expected, valueFault table expected left = valueFault table expected right

/-- One name at one place, in any case. -/
structure Token.SameName (left right : Token) : Prop where
  span : left.span = right.span
  spelling : lowercase left.text = lowercase right.text

/-- One operator at one place. -/
structure SameOperator (left right : Token × Operator) : Prop where
  span : left.1.span = right.1.span
  operator : left.2 = right.2

/-- The name of a condition's left-hand field, as it is written. -/
def Tree.writtenName? (condition : Tree) : Option String := do
  let field ← condition.child? "field"
  let name ← field.identifier?
  return name.text

theorem FieldLookup.find?_of_spelling (lookup : FieldLookup) {name other : String}
    (same : lowercase name = lowercase other) : lookup.find? name = lookup.find? other := by
  rw [find?, find?, same]

theorem VariableTable.typeOf?_of_spelling (table : VariableTable) {name other : String}
    (same : lowercase name = lowercase other) : table.typeOf? name = table.typeOf? other := by
  rw [typeOf?, typeOf?, same]

theorem Diagnostic.atToken_of_span {left right : Token} (same : left.span = right.span)
    (message : String) : Diagnostic.atToken left message = Diagnostic.atToken right message := by
  rw [atToken, atToken, same]

section Parts

variable {left right : Tree} {lookup : FieldLookup} {table : VariableTable}
  {expected : DeclaredType}

theorem kindFault?_of_span {left right : Token} (same : left.span = right.span) (kind : ValueKind)
    (actual : Option ValueKind) : kindFault? kind actual left = kindFault? kind actual right := by
  rw [kindFault?, kindFault?, Diagnostic.atToken_of_span same]

theorem valueFault_of_matches {left right : Token} (tokens : left.Matches right) :
    valueFault table expected left = valueFault table expected right := by
  have faults := kindFault?_of_span tokens.span
  rw [valueFault, valueFault, Token.literalKind?, Token.literalKind?, Token.isVariable,
    Token.isVariable, ← tokens.kind]
  by_cases mentions : left.kind = "VARIABLE"
  · rw [table.typeOf?_of_spelling (tokens.spelling (.inr mentions))]
    simp only [faults]
  · simp only [faults, beq_eq_false_iff_ne.mpr mentions]
    rfl

theorem Token.Matches.exchangeable {left right : Token} (tokens : left.Matches right)
    (table : VariableTable) : left.Exchangeable table right where
  span := tokens.span
  identifies := by rw [Token.isIdentifier, Token.isIdentifier, tokens.kind]
  spelling := fun identifies => tokens.spelling (.inl ((Tree.isIdentifier_iff left).mp identifies))
  operator := by rw [tokens.kind]
  fault := fun _ => valueFault_of_matches tokens

theorem Token.Exchangeable.operator? {left right : Token} (tokens : left.Exchangeable table right) :
    Option.Rel SameOperator left.operator? right.operator? := by
  rw [Token.operator?, Token.operator?, ← tokens.operator]
  cases Operator.ofTerminal? left.kind with
  | none => exact .none
  | some operator => exact .some ⟨tokens.span, rfl⟩

namespace Tree.Alike

theorem identifier? (alike : left.Alike (Token.Exchangeable table) right) :
    Option.Rel Token.SameName left.identifier? right.identifier? := by
  have found : Option.Rel (Token.Exchangeable table) left.identifier? right.identifier? :=
    rel_find? (fun _ _ tokens => tokens.identifies) alike.tokens
  cases named : left.identifier? with
  | none =>
      rw [named] at found
      generalize right.identifier? = other at found
      cases found with
      | none => exact .none
  | some name =>
      have identifies : name.isIdentifier = true := List.find?_some named
      rw [named] at found
      generalize right.identifier? = other at found
      cases found with
      | some tokens => exact .some ⟨tokens.span, tokens.spelling identifies⟩

theorem operator? (alike : left.Alike (Token.Exchangeable table) right) :
    Option.Rel SameOperator left.operator? right.operator? :=
  rel_findSome? (fun _ _ tokens => tokens.operator?) alike.ownTokens

theorem span_eq (alike : left.Alike (Token.Exchangeable table) right) {token : Token}
    (member : token ∈ left.tokens) : left.span = right.span := by
  have spans : left.tokens.map (·.span) = right.tokens.map (·.span) := by
    rw [← List.forall₂_eq_eq_eq, List.forall₂_map_left_iff, List.forall₂_map_right_iff]
    exact alike.tokens.imp fun _ _ tokens => tokens.span
  exact (Tree.span_of_same_spans (List.ne_nil_of_mem member) spans.symm).symm

theorem subject? (alike : left.Alike (Token.Exchangeable table) right) (lookup : FieldLookup) :
    Option.Rel (fun first second => first.1.SameName second.1 ∧ first.2 = second.2)
      (left.subject? lookup) (right.subject? lookup) := by
  have fields := alike.child? "field" (by decide)
  rw [Tree.subject?, Tree.subject?]
  generalize left.child? "field" = first, right.child? "field" = second at fields
  cases fields with
  | none => exact .none
  | @some first second trees =>
      have names := trees.identifier?
      simp only [Option.bind_eq_bind, Option.bind_some]
      generalize first.identifier? = name, second.identifier? = other at names
      cases names with
      | none => exact .none
      | @some name other names =>
          simp only [Option.bind_some, lookup.find?_of_spelling names.spelling]
          cases lookup.find? other.text with
          | none => exact .none
          | some entry => exact .some ⟨names, rfl⟩

theorem fieldFault?_eq (alike : left.Alike (Token.Exchangeable table) right) :
    fieldFault? lookup expected left = fieldFault? lookup expected right := by
  have names := alike.identifier?
  rw [fieldFault?, fieldFault?]
  generalize left.identifier? = name, right.identifier? = other at names
  cases names with
  | none => rfl
  | some names =>
      simp only [Option.bind_eq_bind, Option.bind_some,
        lookup.find?_of_spelling names.spelling, Diagnostic.atToken_of_span names.span]

theorem listedFault_eq (alike : left.Alike (Token.Exchangeable table) right) :
    listedFault table expected left = listedFault table expected right := by
  have operands := alike.operand
  rw [listedFault, listedFault]
  generalize left.operand = first, right.operand = second at operands
  cases operands with
  | error error => rfl
  | ok results =>
      cases results with
      | none => rfl
      | some found =>
          cases found with
          | scalar tokens => exact tokens.fault expected
          | @field left right trees =>
              change (if left.identifier?.isSome then _ else _) =
                if right.identifier?.isSome then _ else _
              have names := trees.identifier?
              cases named : left.identifier? with
              | none =>
                  rw [named] at names
                  generalize right.identifier? = other at names
                  cases names with
                  | none => rfl
              | some name =>
                  have spans := trees.span_eq (List.mem_of_find?_eq_some named)
                  rw [named] at names
                  generalize right.identifier? = other at names
                  cases names with
                  | some _ => simp only [Diagnostic.atNode, Node.span, spans, Option.isSome_some]

end Tree.Alike

theorem Operand.Alike.side_eq {first second : Operand}
    (alike : first.Alike (Token.Exchangeable table) second) : first.side = second.side := by
  cases alike <;> rfl

theorem Operand.Alike.operandFault_eq {scope : Scope} {first second : Operand}
    (alike : first.Alike (Token.Exchangeable scope.variableTable) second) :
    operandFault scope expected first = operandFault scope expected second := by
  cases alike with
  | scalar tokens => exact tokens.fault expected
  | field trees => rw [operandFault, operandFault, trees.fieldFault?_eq]

end Parts

/-- Diagnostics at one place, with one message if the name that it may quote is spelled the same. -/
structure Diagnostic.Alike (spelled : Prop) (left right : Diagnostic) : Prop where
  span : left.span = right.span
  message : spelled → left.message = right.message

section Diagnostics

variable {spelled : Prop} {rules : OperatorRules} {name other : Token}

theorem Diagnostic.Alike.eq {left right : Diagnostic} (alike : left.Alike spelled right)
    (same : spelled) : left = right := by
  obtain ⟨span, message⟩ := left
  obtain ⟨rfl, messages⟩ := alike
  cases messages same
  rfl

theorem alike_self (diagnostics : List Diagnostic) :
    List.Forall₂ (Diagnostic.Alike spelled) diagnostics diagnostics :=
  List.forall₂_same.mpr fun _ _ => ⟨rfl, fun _ => rfl⟩

theorem alike_messages {diagnostics others : List Diagnostic}
    (alike : List.Forall₂ (Diagnostic.Alike spelled) diagnostics others) (same : spelled) :
    diagnostics = others := by
  rw [← List.forall₂_eq_eq_eq]
  exact alike.imp fun _ _ each => each.eq same

theorem alike_toList {first second : Option Diagnostic}
    (alike : Option.Rel (Diagnostic.Alike spelled) first second) :
    List.Forall₂ (Diagnostic.Alike spelled) first.toList second.toList := by
  cases alike with
  | none => exact .nil
  | some same => exact .cons same .nil

theorem operatorFault?_alike (quoted : spelled → name.text = other.text)
    {first second : Token × Operator} (operators : SameOperator first second) (side : RightSide) :
    Option.Rel (Diagnostic.Alike spelled) (operatorFault? rules name first side)
      (operatorFault? rules other second side) := by
  simp only [operatorFault?, ← operators.operator]
  split
  · refine .some ⟨operators.span, fun same => ?_⟩
    rw [Diagnostic.atToken, Diagnostic.atToken, quoted same]
  · split
    · exact .none
    · exact .some ⟨operators.span, fun _ => rfl⟩

theorem groupFault?_alike (names : name.SameName other) (quoted : spelled → name.text = other.text)
    {first second : Option (Token × Operator)}
    (operators : Option.Rel SameOperator first second) :
    Option.Rel (Diagnostic.Alike spelled) (groupFault? rules name first)
      (groupFault? rules other second) := by
  have anchors : ((first.map (·.1)).getD name).span = ((second.map (·.1)).getD other).span := by
    cases operators with
    | none => exact names.span
    | some same => exact same.span
  have legal : first.any (·.2 ∈ rules.group) = second.any (·.2 ∈ rules.group) := by
    cases operators with
    | none => rfl
    | some same => simp only [Option.any_some, same.operator]
  simp only [groupFault?, ← legal]
  split
  · refine .some ⟨anchors, fun same => ?_⟩
    rw [Diagnostic.atToken, Diagnostic.atToken, quoted same]
  · split
    · exact .none
    · exact .some ⟨anchors, fun _ => rfl⟩

end Diagnostics

namespace Condition

/-- Conditions that say the same of fields with one name, except that its spelling may differ. -/
inductive Alike (table : VariableTable) (spelled : Prop) : Condition → Condition → Prop where
  | ignored : Alike table spelled .ignored .ignored
  | incomplete (name other : Token) : Alike table spelled (.incomplete name) (.incomplete other)
  | comparison {name other : Token} {first second : Token × Operator} {left right : Operand}
      (rules : OperatorRules) (quoted : spelled → name.text = other.text)
      (operators : SameOperator first second)
      (operands : left.Alike (Token.Exchangeable table) right) :
      Alike table spelled (.comparison rules name first left) (.comparison rules other second right)
  | membership {name other : Token} {first second : Option (Token × Operator)}
      {lefts rights : List Tree} (rules : OperatorRules) (names : name.SameName other)
      (quoted : spelled → name.text = other.text)
      (operators : Option.Rel SameOperator first second)
      (values : List.Forall₂ (Tree.Alike (Token.Exchangeable table)) lefts rights) :
      Alike table spelled (.membership rules name first lefts)
        (.membership rules other second rights)

variable {spelled : Prop} {scope : Scope} {lookup : FieldLookup} {table : VariableTable}
  {rules : OperatorRules} {name other : Token} {left right : Tree}

theorem Alike.check {first second : Condition}
    (alike : first.Alike scope.variableTable spelled second) :
    ExceptRel (List.Forall₂ (Diagnostic.Alike spelled)) (first.check scope)
      (second.check scope) := by
  cases alike with
  | ignored => exact .ok .nil
  | incomplete name other => exact .ok .nil
  | @comparison name other first second left right rules quoted operators operands =>
      have faults : Option.Rel (Diagnostic.Alike spelled)
          (operatorFault? rules name first left.side)
          (operatorFault? rules other second right.side) :=
        operands.side_eq ▸ operatorFault?_alike quoted operators left.side
      rw [Condition.check, Condition.check, operands.operandFault_eq]
      generalize operatorFault? rules name first left.side = fault,
        operatorFault? rules other second right.side = another at faults
      cases faults with
      | some same => exact .ok (.cons same .nil)
      | none =>
          cases operandFault scope rules.fieldType right with
          | error error => exact .error error
          | ok fault => exact .ok (alike_self _)
  | membership rules names quoted operators values =>
      rw [Condition.check, Condition.check,
        mapM_congr_of_forall₂ (values.imp fun _ _ value => value.listedFault_eq)]
      cases List.mapM (listedFault scope.variableTable rules.fieldType) _ with
      | error error => exact .error error
      | ok faults =>
          exact .ok (List.rel_append (alike_toList (groupFault?_alike names quoted operators))
            (alike_self _))

theorem ofComparison_alike (quoted : spelled → name.text = other.text)
    {first second : Option (Token × Operator)} (operators : Option.Rel SameOperator first second)
    {left right : Option Operand}
    (operands : Option.Rel (Operand.Alike (Token.Exchangeable table)) left right) :
    (ofComparison rules name first left).Alike table spelled
      (ofComparison rules other second right) := by
  cases operators with
  | none => exact .incomplete name other
  | some operators =>
      cases operands with
      | none => exact .incomplete name other
      | some operands => exact .comparison rules quoted operators operands

theorem readForm_alike (alike : left.Alike (Token.Exchangeable table) right)
    (names : name.SameName other) (quoted : spelled → name.text = other.text) :
    ExceptRel (Alike table spelled) (readForm left name rules) (readForm right other rules) := by
  rcases both_or_either_lacks left "operator" "value" with
    ⟨operator, value, first, second⟩ | incomplete
  · obtain ⟨otherOperator, otherFirst, operators⟩ := alike.firstChild (by decide) first
    obtain ⟨otherValue, otherSecond, values⟩ := alike.firstChild (by decide) second
    rw [readForm_comparison first second, readForm_comparison otherFirst otherSecond]
    exact values.operand.map fun _ _ operands =>
      ofComparison_alike quoted operators.operator? operands
  · have otherIncomplete := incomplete.imp (alike.lacks (by decide)) (alike.lacks (by decide))
    rcases both_or_either_lacks left "in_operator" "value_list" with
      ⟨operator, list, first, second⟩ | unlisted
    · obtain ⟨otherOperator, otherFirst, operators⟩ := alike.firstChild (by decide) first
      obtain ⟨otherList, otherSecond, lists⟩ := alike.firstChild (by decide) second
      rw [readForm_membership incomplete first second,
        readForm_membership otherIncomplete otherFirst otherSecond]
      exact .ok (.membership rules names quoted operators.operator? lists.values)
    · have otherUnlisted := unlisted.imp (alike.lacks (by decide)) (alike.lacks (by decide))
      rw [readForm_formless incomplete unlisted, readForm_formless otherIncomplete otherUnlisted]
      exact .ok .ignored

end Condition

theorem Tree.writtenName?_of_subject? {condition : Tree} {lookup : FieldLookup} {name : Token}
    {rules : OperatorRules} (known : condition.subject? lookup = some (name, rules)) :
    condition.writtenName? = some name.text := by
  obtain ⟨field, entry, first, named, -, -⟩ := subject?_eq_some_iff.mp known
  simp [writtenName?, child?_eq_some_iff.mpr first, identifier?_eq_some_iff.mpr named]

theorem Condition.read_alike {lookup : FieldLookup} {table : VariableTable} {left right : Tree}
    (alike : left.Alike (Token.Exchangeable table) right) :
    ExceptRel (Alike table (left.writtenName? = right.writtenName?)) (read lookup left)
      (read lookup right) := by
  have subjects := alike.subject? lookup
  rw [read, read]
  cases known : left.subject? lookup with
  | none =>
      rw [known] at subjects
      generalize right.subject? lookup = subject at subjects
      cases subjects
      exact .ok .ignored
  | some subject =>
      obtain ⟨name, rules⟩ := subject
      rw [known] at subjects
      cases again : right.subject? lookup with
      | none =>
          rw [again] at subjects
          cases subjects
      | some another =>
          obtain ⟨other, _⟩ := another
          rw [again] at subjects
          cases subjects with
          | some same =>
              obtain ⟨names, rfl⟩ := same
              refine readForm_alike alike names fun spelled => ?_
              rw [Tree.writtenName?_of_subject? known, Tree.writtenName?_of_subject? again]
                at spelled
              exact Option.some.inj spelled

/-- Alike conditions raise one error or have alike diagnostics. -/
theorem Tree.Alike.checkCondition_of_exchangeable {scope : Scope} {left right : Tree}
    (alike : left.Alike (Token.Exchangeable scope.variableTable) right) :
    ExceptRel (List.Forall₂ (Diagnostic.Alike (left.writtenName? = right.writtenName?)))
      (checkCondition scope left) (checkCondition scope right) :=
  (Condition.read_alike alike).bind fun _ _ conditions => conditions.check

theorem Tree.Alike.checkCondition (scope : Scope) {left right : Tree}
    (alike : left.Alike Token.Matches right) :
    ExceptRel (List.Forall₂ (Diagnostic.Alike (left.writtenName? = right.writtenName?)))
      (WorkItemQuery.checkCondition scope left) (WorkItemQuery.checkCondition scope right) := by
  have exchanged : left.Alike (Token.Exchangeable scope.variableTable) right :=
    Node.Alike.imp (fun _ _ tokens => tokens.exchangeable scope.variableTable) alike
  exact exchanged.checkCondition_of_exchangeable

section SameNames

variable {scope : Scope} {same : Token → Token → Prop}
  (exchangeable : ∀ left right, same left right → left.Exchangeable scope.variableTable right)
  (spelled : ∀ left right, same left right → left.isIdentifier = true → left.text = right.text)

include exchangeable spelled

theorem Tree.Alike.writtenName?_eq {left right : Tree} (alike : left.Alike same right) :
    left.writtenName? = right.writtenName? := by
  have fields := alike.child? "field" (by decide)
  rw [writtenName?, writtenName?]
  generalize left.child? "field" = first, right.child? "field" = second at fields
  cases fields with
  | none => rfl
  | @some first second trees =>
      have names : Option.Rel same first.identifier? second.identifier? :=
        rel_find? (fun left right tokens => (exchangeable left right tokens).identifies) trees.tokens
      simp only [Option.bind_eq_bind, Option.bind_some]
      cases named : first.identifier? with
      | none =>
          rw [named] at names
          generalize second.identifier? = other at names
          cases names
          rfl
      | some name =>
          have identifies : name.isIdentifier = true := List.find?_some named
          rw [named] at names
          generalize second.identifier? = other at names
          cases names with
          | some tokens => exact congrArg some (spelled _ _ tokens identifies)

/-- With the spelling of the names the same, nothing is left that a message could show. -/
theorem Tree.Alike.checkCondition_eq {left right : Tree} (alike : left.Alike same right) :
    WorkItemQuery.checkCondition scope left = WorkItemQuery.checkCondition scope right := by
  have exchanged : left.Alike (Token.Exchangeable scope.variableTable) right :=
    Node.Alike.imp exchangeable alike
  rcases exchanged.checkCondition_of_exchangeable.error_or_ok with
    ⟨error, first, second⟩ | ⟨diagnostics, others, first, second, given⟩
  · rw [first, second]
  · have names := alike.writtenName?_eq exchangeable spelled
    rw [first, second, alike_messages given names]

theorem Node.Alike.check_eq {left right : Node} (alike : left.Alike same right) :
    check scope left = check scope right := by
  have conditions := alike.conditions
  cases alike with
  | absent => rfl
  | leaf _ => rfl
  | branch _ _ =>
      rw [check_branch, check_branch]
      exact congrArg (Except.map List.flatten) (mapM_congr_of_forall₂
        (conditions.imp fun _ _ condition => condition.checkCondition_eq exchangeable spelled))

end SameNames

end WorkItemQuery
