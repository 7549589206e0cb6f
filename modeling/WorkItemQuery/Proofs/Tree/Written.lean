import WorkItemQuery.Proofs.Tree.Alike

/-!
# Trees as they are written

The smallest trees of a comparison and of a membership, made from the tokens that they are written
with.
-/

namespace WorkItemQuery

/-- A token of which only the start is recorded. -/
def Token.startingAt (start : Int) (kind text : String) : Token where
  kind
  text
  span := ⟨some start, none, none, none, none, none⟩

namespace Tree

def around (rule : String) (token : Token) : Tree :=
  ⟨rule, [.leaf token], .absent⟩

def ofComparison (name operator : Token) (operand : Operand) : Tree where
  rule := "condition"
  children := [.branch (around "field" name), .branch (around "operator" operator),
    .branch ⟨"value", [operand.node], .absent⟩]
  extent := .absent

def ofMembership (name operator : Token) (scalars : List Token) : Tree where
  rule := "condition"
  children := [.branch (around "field" name), .branch (around "in_operator" operator),
    .branch ⟨"value_list", scalars.map fun scalar => .branch (around "value" scalar), .absent⟩]
  extent := .absent

variable {name operator : Token} {written : Operator}

theorem around_names (identifies : name.kind = "IDENTIFIER") (rule : String) :
    Names (around rule name) name :=
  identifier?_eq_some_iff.mp (by simp [identifier?, Tree.tokens_eq, around, tokensOf, Node.tokens,
    Token.isIdentifier, identifies])

theorem around_writes (writes : operator.kind = written.terminal) (rule : String) :
    Writes (around rule operator) operator written :=
  ⟨⟨[], [], rfl, ⟨operator, rfl, written, writes⟩, by simp⟩, writes⟩

theorem around_whole (rule : String) (token : Token) :
    Node.Whole (.branch (around rule token)) :=
  .branch (List.forall_mem_singleton.mpr (.leaf token))

theorem ofComparison_whole (name operator : Token) {operand : Operand}
    (whole : operand.node.Whole) : Node.Whole (.branch (ofComparison name operator operand)) := by
  refine .branch (List.forall_mem_cons.mpr ⟨around_whole _ _, ?_⟩)
  refine List.forall_mem_cons.mpr ⟨around_whole _ _, List.forall_mem_singleton.mpr ?_⟩
  exact .branch (List.forall_mem_singleton.mpr whole)

theorem ofMembership_whole (name operator : Token) (scalars : List Token) :
    Node.Whole (.branch (ofMembership name operator scalars)) := by
  refine .branch (List.forall_mem_cons.mpr ⟨around_whole _ _, ?_⟩)
  refine List.forall_mem_cons.mpr ⟨around_whole _ _, List.forall_mem_singleton.mpr ?_⟩
  exact .branch (List.forall_mem_map.mpr fun scalar _ => around_whole _ scalar)

section Alike

variable {same : Token → Token → Prop} {other another : Token}

theorem around_alike (tokens : same name other) (rule : String) :
    (around rule name).Alike same (around rule other) :=
  .branch (.inl rfl) (.cons (.leaf tokens) .nil)

theorem ofComparison_alike (names : same name other) (operators : same operator another)
    {left right : Operand} (operands : left.Alike same right) :
    (ofComparison name operator left).Alike same (ofComparison other another right) := by
  have nodes : left.node.Alike same right.node := by
    cases operands with
    | scalar tokens => exact .leaf tokens
    | field trees => exact trees
  exact .branch (.inl rfl) (.cons (around_alike names "field")
    (.cons (around_alike operators "operator")
      (.cons (.branch (.inl rfl) (.cons nodes .nil)) .nil)))

theorem ofMembership_alike (names : same name other) (operators : same operator another)
    {lefts rights : List Token} (scalars : List.Forall₂ same lefts rights) :
    (ofMembership name operator lefts).Alike same (ofMembership other another rights) := by
  have values : List.Forall₂ (Node.Alike same)
      (lefts.map fun scalar => .branch (around "value" scalar))
      (rights.map fun scalar => .branch (around "value" scalar)) := by
    rw [List.forall₂_map_left_iff, List.forall₂_map_right_iff]
    exact scalars.imp fun _ _ tokens => around_alike tokens "value"
  exact .branch (.inl rfl) (.cons (around_alike names "field")
    (.cons (around_alike operators "in_operator") (.cons (.branch (.inl rfl) values) .nil)))

end Alike

theorem values_around (scalars : List Token) (extent : Extent) :
    values ⟨"value_list", scalars.map fun scalar => .branch (around "value" scalar), extent⟩ =
      scalars.map (around "value") := by
  induction scalars with
  | nil => rfl
  | cons scalar rest ih => simpa [values, subtrees, Node.tree?, around] using ih

end Tree

end WorkItemQuery
