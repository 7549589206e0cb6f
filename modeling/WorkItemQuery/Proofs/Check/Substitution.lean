import WorkItemQuery.Proofs.Check.Alike
import WorkItemQuery.Proofs.Check.Faults
import WorkItemQuery.Proofs.Tree.Written

/-!
# Variables as literals

A variable of a known type stands for a literal of the kind that the values of the type have: with
such literals in the place of any of its variables a query is checked alike. Main statement:
`variables_checked_as_literals`.
-/

namespace WorkItemQuery

open Text

/-- A token, or in the place of a variable of a known type a literal of the kind that the values of
the type have. -/
inductive Token.Substituted (table : VariableTable) : Token → Token → Prop where
  | same (token : Token) : Substituted table token token
  | literal {mention literal : Token} {type : FieldType} (mentions : mention.kind = "VARIABLE")
      (held : table.get? (lowercase mention.text) = some (.known type))
      (written : (literal.kind, type.valueKind) ∈ ValueKind.terminals)
      (place : literal.span = mention.span) : Substituted table mention literal

theorem identifier_not_mem_terminals (kind : ValueKind) :
    ("IDENTIFIER", kind) ∉ ValueKind.terminals := by
  cases kind <;> decide

/-- No literal writes an operator. -/
theorem ofTerminal?_of_mem_terminals {terminal : String} {kind : ValueKind}
    (written : (terminal, kind) ∈ ValueKind.terminals) : Operator.ofTerminal? terminal = none := by
  simp only [ValueKind.terminals, List.mem_cons, Prod.mk.injEq, List.not_mem_nil, or_false]
    at written
  rcases written with ⟨rfl, -⟩ | ⟨rfl, -⟩ | ⟨rfl, -⟩ | ⟨rfl, -⟩ <;> rfl

namespace Token.Substituted

variable {table : VariableTable} {left right : Token}

theorem fault_eq (substituted : left.Substituted table right) (expected : DeclaredType) :
    valueFault table expected left = valueFault table expected right := by
  cases substituted with
  | same => rfl
  | literal mentions held written place =>
      have constant : ¬ right.kind = "VARIABLE" := by
        intro mentioned
        rw [mentioned] at written
        exact variable_not_mem_terminals _ written
      rw [valueFault_of_known mentions (VariableTable.typeOf?_eq_known_iff.mpr held),
        valueFault_of_constant constant, literalKind?,
        ValueKind.ofTerminal?_eq_some_iff.mpr written]
      simp only [kindFault?_of_span place]

theorem exchangeable (substituted : left.Substituted table right) :
    left.Exchangeable table right := by
  cases substituted with
  | same => exact (Matches.refl left).exchangeable table
  | literal mentions held written place =>
      have unnamed : left.isIdentifier = false := by simp [isIdentifier, mentions]
      have otherUnnamed : right.isIdentifier = false := by
        refine beq_eq_false_iff_ne.mpr fun identifies => ?_
        rw [identifies] at written
        exact identifier_not_mem_terminals _ written
      have silent : Operator.ofTerminal? left.kind = none := by rw [mentions]; rfl
      exact
        { span := place.symm
          identifies := unnamed.trans otherUnnamed.symm
          spelling := fun identifies => by simp [unnamed] at identifies
          operator := silent.trans (ofTerminal?_of_mem_terminals written).symm
          fault := (Substituted.literal mentions held written place).fault_eq }

theorem text_eq (substituted : left.Substituted table right)
    (identifies : left.isIdentifier = true) : left.text = right.text := by
  cases substituted with
  | same => rfl
  | literal mentions _ _ _ => simp [isIdentifier, mentions] at identifies

end Token.Substituted

/-- Literals of the right kinds in the place of variables, anywhere in a query, change neither its
diagnostics nor the error that its check raises. -/
theorem variables_checked_as_literals (scope : Scope) {query other : Node}
    (substituted : query.Alike (Token.Substituted scope.variableTable) other) :
    check scope query = check scope other :=
  substituted.check_eq (fun _ _ tokens => tokens.exchangeable) fun _ _ tokens => tokens.text_eq

namespace Sprint

def scope : Scope where
  lookup := ⟨⟨[("title", .typed .string), ("effort", .typed .double)]⟩⟩
  variableTable := ⟨[("@sprint", .known .integer), ("@me", .known .identity)]⟩

def sprint (start : Int) : Token :=
  .startingAt start "VARIABLE" "@Sprint"

def seven (start : Int) : Token :=
  .startingAt start "NUMBER" "7"

def me : Token :=
  .startingAt 40 "VARIABLE" "@Me"

def ada : Token :=
  .startingAt 40 "STRING" "'Ada'"

/-- A query `[Title] = first And [Effort] In (second, third)`, after a token that stands alone. -/
def query (alone first second third : Token) : Node :=
  .branch
    ⟨"where_clause",
      [.leaf alone,
       .branch (.ofComparison (.startingAt 10 "IDENTIFIER" "Title") (.startingAt 15 "EQUALS" "=")
        (.scalar first)),
       .branch (.ofMembership (.startingAt 20 "IDENTIFIER" "Effort") (.startingAt 27 "IN" "In")
        [second, third])],
      .absent⟩

def mentions : Node :=
  query (sprint 0) (sprint 17) (sprint 30) me

def literals : Node :=
  query (seven 0) (seven 17) (seven 30) ada

theorem sprint_substituted (start : Int) :
    Token.Substituted scope.variableTable (sprint start) (seven start) := by
  have lowered : lowercase "@Sprint" = "@sprint" := by decide
  have held : scope.variableTable.get? (lowercase "@Sprint") = some (.known .integer) := by
    rw [lowered]
    rfl
  have written : ("NUMBER", FieldType.integer.valueKind) ∈ ValueKind.terminals := by decide
  exact .literal rfl held written rfl

theorem me_substituted : Token.Substituted scope.variableTable me ada := by
  have lowered : lowercase "@Me" = "@me" := by decide
  have held : scope.variableTable.get? (lowercase "@Me") = some (.known .identity) := by
    rw [lowered]
    rfl
  have written : ("STRING", FieldType.identity.valueKind) ∈ ValueKind.terminals := by decide
  exact .literal rfl held written rfl

theorem mentions_substituted : mentions.Alike (Token.Substituted scope.variableTable) literals := by
  have listed : List.Forall₂ (Token.Substituted scope.variableTable) [sprint 30, me]
      [seven 30, ada] :=
    .cons (sprint_substituted 30) (.cons me_substituted .nil)
  exact .branch (.inl rfl) (.cons (.leaf (sprint_substituted 0))
    (.cons (Tree.ofComparison_alike (.same _) (.same _) (.scalar (sprint_substituted 17)))
      (.cons (Tree.ofMembership_alike (.same _) (.same _) listed) .nil)))

end Sprint

open Sprint in
theorem literals_for_sprint_and_me :
    let wrongTitle := Diagnostic.atToken (seven 17) (Message.expectedValue .string)
    let wrongEffort := Diagnostic.atToken ada (Message.expectedValue .number)
    mentions.Alike (Token.Substituted scope.variableTable) literals ∧
      check scope mentions = .ok [wrongTitle, wrongEffort] ∧
      check scope literals = .ok [wrongTitle, wrongEffort] := by
  intro wrongTitle wrongEffort
  have checked : check scope literals = .ok [wrongTitle, wrongEffort] := rfl
  have same := variables_checked_as_literals scope mentions_substituted
  exact ⟨mentions_substituted, same.trans checked, checked⟩

end WorkItemQuery
