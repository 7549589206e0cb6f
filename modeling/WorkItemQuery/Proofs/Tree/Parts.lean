import WorkItemQuery.Proofs.Tree.First
import WorkItemQuery.Tree.Parts

/-!
# Parts of a tree

The parts of a condition as its tree shows them: the first child of a rule, the first identifier
below a field, the first token that writes an operator, the first operand of a value. Each search
finds exactly the part so described.
-/

namespace WorkItemQuery

namespace Operator

theorem ofTerminal?_eq_some_iff {terminal : String} {operator : Operator} :
    ofTerminal? terminal = some operator ↔ terminal = operator.terminal := by
  constructor
  · intro found
    have same : operator.terminal = terminal := by simpa using List.find?_some found
    exact same.symm
  · intro same
    subst same
    exact ofTerminal?_terminal operator

end Operator

namespace Node

def HasRule (rule : String) (node : Node) : Prop :=
  ∃ tree, node = .branch tree ∧ tree.rule = rule

def WritesOperator (node : Node) : Prop :=
  ∃ token, node = .leaf token ∧ ∃ operator : Operator, token.kind = operator.terminal

def IsOperand : Node → Prop
  | .absent => False
  | .leaf _ => True
  | .branch tree => tree.rule = "field"

theorem tree?_eq_some_iff (node : Node) (tree : Tree) :
    node.tree? = some tree ↔ node = .branch tree := by
  cases node <;> simp [tree?]

theorem token?_eq_some_iff (node : Node) (token : Token) :
    node.token? = some token ↔ node = .leaf token := by
  cases node <;> simp [token?]

end Node

def Lacks (tree : Tree) (rule : String) : Prop :=
  ∀ child ∈ tree.children, ¬ child.HasRule rule

def FirstChild (tree : Tree) (rule : String) (part : Tree) : Prop :=
  IsFirst (Node.HasRule rule) tree.children (.branch part)

def Nameless (tree : Tree) : Prop :=
  ∀ token ∈ tree.tokens, ¬ token.kind = "IDENTIFIER"

/-- The first identifier below a tree, at any depth. -/
def Names (tree : Tree) (name : Token) : Prop :=
  IsFirst (fun token => token.kind = "IDENTIFIER") tree.tokens name

def WithoutOperator (tree : Tree) : Prop :=
  ∀ child ∈ tree.children, ¬ child.WritesOperator

/-- The first own token of a tree that writes an operator, with that operator. -/
def Writes (tree : Tree) (token : Token) (operator : Operator) : Prop :=
  IsFirst Node.WritesOperator tree.children (.leaf token) ∧ token.kind = operator.terminal

def WithoutOperand (tree : Tree) : Prop :=
  ∀ child ∈ tree.children, ¬ child.IsOperand

/-- The first operand among the children of a tree. -/
def Holds (tree : Tree) (operand : Operand) : Prop :=
  IsFirst Node.IsOperand tree.children operand.node

variable {tree : Tree} {operand : Operand}

theorem FirstChild.not_lacks {rule : String} {part : Tree} (first : FirstChild tree rule part) :
    ¬ Lacks tree rule :=
  first.not_forall

theorem FirstChild.neither_lacks {left right : String} {part other : Tree}
    (first : FirstChild tree left part) (second : FirstChild tree right other) :
    ¬ (Lacks tree left ∨ Lacks tree right) :=
  not_or.mpr ⟨first.not_lacks, second.not_lacks⟩

theorem FirstChild.mem {rule : String} {part : Tree} (first : FirstChild tree rule part) :
    .branch part ∈ tree.children :=
  IsFirst.mem first

theorem FirstChild.unique {rule : String} {part other : Tree} (first : FirstChild tree rule part)
    (second : FirstChild tree rule other) : part = other :=
  Node.branch.inj (IsFirst.unique first second)

theorem Names.not_nameless {name : Token} (named : Names tree name) : ¬ Nameless tree :=
  named.not_forall

theorem Names.unique {name other : Token} (named : Names tree name) (again : Names tree other) :
    name = other :=
  IsFirst.unique named again

theorem Writes.not_withoutOperator {token : Token} {operator : Operator}
    (writes : Writes tree token operator) : ¬ WithoutOperator tree :=
  writes.1.not_forall

theorem Holds.not_withoutOperand (holds : Holds tree operand) : ¬ WithoutOperand tree :=
  holds.not_forall

theorem Writes.operator_eq {token other : Token} {operator written : Operator}
    (first : Writes tree token operator) (second : Writes tree other written) :
    operator = written := by
  have same : token = other := Node.leaf.inj (first.1.unique second.1)
  have kinds : operator.terminal = written.terminal := by rw [← first.2, ← second.2, same]
  rw [← Option.some_inj, ← operator.ofTerminal?_terminal, kinds, written.ofTerminal?_terminal]

theorem Holds.unique {other : Operand} (first : Holds tree operand) (second : Holds tree other) :
    operand = other := by
  have same : operand.node = other.node := IsFirst.unique first second
  cases operand <;> cases other <;> simp_all [Operand.node]

namespace Tree

variable {tree part : Tree} {rule : String} {name token : Token} {operator : Operator}
  {operand : Operand}

theorem child?_eq_some_iff : tree.child? rule = some part ↔ FirstChild tree rule part := by
  have decides (subtree : Tree) : (subtree.rule == rule) = true ↔ subtree.rule = rule := by simp
  rw [child?, subtrees, find?_eq_some_iff_isFirst decides]
  exact isFirst_filterMap_iff Node.tree?_eq_some_iff (fun _ => Iff.rfl)

theorem child?_eq_none_iff : tree.child? rule = none ↔ Lacks tree rule := by
  have decides (subtree : Tree) : (subtree.rule == rule) = true ↔ subtree.rule = rule := by simp
  rw [child?, subtrees, find?_eq_none_iff_forall decides]
  constructor
  · intro quiet child member found
    obtain ⟨subtree, rfl, same⟩ := found
    exact quiet subtree (List.mem_filterMap.mpr ⟨_, member, rfl⟩) same
  · intro quiet subtree member same
    obtain ⟨child, below, seen⟩ := List.mem_filterMap.mp member
    exact quiet child below ⟨subtree, (child.tree?_eq_some_iff subtree).mp seen, same⟩

theorem isIdentifier_iff (token : Token) :
    token.isIdentifier = true ↔ token.kind = "IDENTIFIER" := by
  simp [Token.isIdentifier]

theorem identifier?_eq_some_iff : tree.identifier? = some name ↔ Names tree name :=
  find?_eq_some_iff_isFirst isIdentifier_iff

theorem identifier?_eq_none_iff : tree.identifier? = none ↔ Nameless tree :=
  find?_eq_none_iff_forall isIdentifier_iff

theorem token_operator?_eq_some_iff {other : Token} :
    other.operator? = some (token, operator) ↔ other = token ∧ token.kind = operator.terminal := by
  rw [Token.operator?, Option.map_eq_some_iff]
  constructor
  · intro read
    obtain ⟨written, found, same⟩ := read
    obtain ⟨rfl, rfl⟩ := Prod.mk.inj same
    exact ⟨rfl, Operator.ofTerminal?_eq_some_iff.mp found⟩
  · intro writes
    obtain ⟨rfl, kind⟩ := writes
    exact ⟨operator, Operator.ofTerminal?_eq_some_iff.mpr kind, rfl⟩

theorem token_operator?_eq_none_iff :
    token.operator? = none ↔ ¬ ∃ operator : Operator, token.kind = operator.terminal := by
  rw [Token.operator?, Option.map_eq_none_iff, Option.eq_none_iff_forall_ne_some, not_exists]
  exact forall_congr' fun operator => not_congr Operator.ofTerminal?_eq_some_iff

theorem operator?_eq_some_iff :
    tree.operator? = some (token, operator) ↔ Writes tree token operator := by
  have first : IsFirst (fun token => ∃ operator : Operator, token.kind = operator.terminal)
      tree.ownTokens token ↔ IsFirst Node.WritesOperator tree.children (.leaf token) :=
    isFirst_filterMap_iff Node.token?_eq_some_iff (fun _ => Iff.rfl)
  rw [Writes, ← first, operator?, List.findSome?_eq_some_iff]
  constructor
  · intro read
    obtain ⟨before, found, after, split, written, quiet⟩ := read
    obtain ⟨rfl, kind⟩ := token_operator?_eq_some_iff.mp written
    exact ⟨⟨before, after, split, ⟨operator, kind⟩,
      fun earlier member => token_operator?_eq_none_iff.mp (quiet earlier member)⟩, kind⟩
  · intro writes
    obtain ⟨⟨before, after, split, _, quiet⟩, kind⟩ := writes
    exact ⟨before, token, after, split, token_operator?_eq_some_iff.mpr ⟨rfl, kind⟩,
      fun earlier member => token_operator?_eq_none_iff.mpr (quiet earlier member)⟩

theorem operator?_eq_none_iff : tree.operator? = none ↔ WithoutOperator tree := by
  rw [operator?, List.findSome?_eq_none_iff]
  constructor
  · intro quiet child member writes
    obtain ⟨token, rfl, written⟩ := writes
    have own : token ∈ tree.ownTokens := List.mem_filterMap.mpr ⟨_, member, rfl⟩
    exact token_operator?_eq_none_iff.mp (quiet token own) written
  · intro quiet token own
    obtain ⟨child, member, seen⟩ := List.mem_filterMap.mp own
    have leaf : child = .leaf token := (child.token?_eq_some_iff token).mp seen
    exact token_operator?_eq_none_iff.mpr fun written => quiet child member ⟨token, leaf, written⟩

theorem operandAmong_eq_some_iff {nodes : List Node} (present : Node.absent ∉ nodes) :
    operandAmong nodes = .ok (some operand) ↔ IsFirst Node.IsOperand nodes operand.node := by
  induction nodes with
  | nil => simp [operandAmong, IsFirst]
  | cons node rest ih =>
      obtain ⟨here, later⟩ := not_or.mp (mt List.mem_cons.mpr present)
      cases node with
      | absent => exact absurd rfl here
      | leaf token =>
          rw [operandAmong, isFirst_cons_of_holds (show Node.IsOperand (.leaf token) from trivial)]
          cases operand <;> simp [Operand.node]
      | branch tree =>
          rw [operandAmong]
          by_cases field : tree.rule = "field"
          · rw [isFirst_cons_of_holds (show Node.IsOperand (.branch tree) from field)]
            cases operand <;> simp [Operand.node, isField, field]
          · rw [isFirst_cons_of_not (show ¬ Node.IsOperand (.branch tree) from field)]
            simpa [isField, field] using ih later

theorem operandAmong_eq_none_iff {nodes : List Node} (present : Node.absent ∉ nodes) :
    operandAmong nodes = .ok none ↔ ∀ node ∈ nodes, ¬ node.IsOperand := by
  induction nodes with
  | nil => simp [operandAmong]
  | cons node rest ih =>
      obtain ⟨here, later⟩ := not_or.mp (mt List.mem_cons.mpr present)
      cases node with
      | absent => exact absurd rfl here
      | leaf token => simp [operandAmong, Node.IsOperand]
      | branch tree =>
          by_cases field : tree.rule = "field"
          · simp [operandAmong, Node.IsOperand, isField, field]
          · simpa [operandAmong, Node.IsOperand, isField, field] using ih later

theorem operandAmong_total {nodes : List Node} (present : Node.absent ∉ nodes) :
    ∃ found, operandAmong nodes = .ok found := by
  induction nodes with
  | nil => exact ⟨none, rfl⟩
  | cons node rest ih =>
      obtain ⟨here, later⟩ := not_or.mp (mt List.mem_cons.mpr present)
      cases node with
      | absent => exact absurd rfl here
      | leaf token => exact ⟨some (.scalar token), rfl⟩
      | branch tree =>
          rw [operandAmong]
          split
          · exact ⟨some (.field tree), rfl⟩
          · exact ih later

theorem operand_eq_some_iff (present : Node.absent ∉ tree.children) :
    tree.operand = .ok (some operand) ↔ Holds tree operand :=
  operandAmong_eq_some_iff present

theorem operand_eq_none_iff (present : Node.absent ∉ tree.children) :
    tree.operand = .ok none ↔ WithoutOperand tree :=
  operandAmong_eq_none_iff present

theorem operand_total (present : Node.absent ∉ tree.children) :
    ∃ found, tree.operand = .ok found :=
  operandAmong_total present

theorem mem_values_iff {value : Tree} :
    value ∈ tree.values ↔ .branch value ∈ tree.children ∧ value.rule = "value" := by
  rw [values, subtrees, List.mem_filter, List.mem_filterMap]
  constructor
  · intro listed
    obtain ⟨⟨child, member, seen⟩, same⟩ := listed
    have branch : child = .branch value := (child.tree?_eq_some_iff value).mp seen
    exact ⟨branch ▸ member, by simpa using same⟩
  · intro child
    obtain ⟨member, same⟩ := child
    exact ⟨⟨.branch value, member, rfl⟩, by simpa using same⟩

end Tree

end WorkItemQuery
