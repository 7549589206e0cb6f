import WorkItemQuery.Condition
import WorkItemQuery.Proofs.Tree.Parts

/-!
# Forms of a condition

A condition about a known field is a comparison if it has an operator and a value, else a membership
if it has a group operator and a list, else neither; it is read accordingly.
-/

namespace WorkItemQuery

theorem firstChild_or_lacks (tree : Tree) (rule : String) :
    (∃ part, FirstChild tree rule part) ∨ Lacks tree rule := by
  cases found : tree.child? rule with
  | none => exact .inr (Tree.child?_eq_none_iff.mp found)
  | some part => exact .inl ⟨part, Tree.child?_eq_some_iff.mp found⟩

theorem both_or_either_lacks (tree : Tree) (left right : String) :
    (∃ first second, FirstChild tree left first ∧ FirstChild tree right second) ∨
      (Lacks tree left ∨ Lacks tree right) := by
  rcases firstChild_or_lacks tree left with ⟨first, here⟩ | missing
  · rcases firstChild_or_lacks tree right with ⟨second, there⟩ | missing
    · exact .inl ⟨first, second, here, there⟩
    · exact .inr (.inr missing)
  · exact .inr (.inl missing)

theorem Tree.subject?_eq_some_iff {tree : Tree} {lookup : FieldLookup} {name : Token}
    {rules : OperatorRules} :
    tree.subject? lookup = some (name, rules) ↔
      ∃ field entry, FirstChild tree "field" field ∧ Names field name ∧
        lookup.find? name.text = some entry ∧ entry.rules = rules := by
  simp only [subject?, Option.bind_eq_bind, Option.bind_eq_some_iff, Option.pure_def,
    Option.some.injEq, Prod.mk.injEq, child?_eq_some_iff, identifier?_eq_some_iff]
  constructor
  · intro read
    obtain ⟨field, first, _, named, entry, found, rfl, same⟩ := read
    exact ⟨field, entry, first, named, found, same⟩
  · intro known
    obtain ⟨field, entry, first, named, found, same⟩ := known
    exact ⟨field, first, name, named, entry, found, rfl, same⟩

namespace Condition

variable {tree : Tree} {name : Token} {rules : OperatorRules}

theorem readForm_comparison {operator value : Tree} (first : FirstChild tree "operator" operator)
    (second : FirstChild tree "value" value) :
    readForm tree name rules =
      value.operand.map (ofComparison rules name operator.operator?) := by
  rw [readForm, Tree.child?_eq_some_iff.mpr first, Tree.child?_eq_some_iff.mpr second]

theorem readForm_incomplete (incomplete : Lacks tree "operator" ∨ Lacks tree "value") :
    readForm tree name rules =
      match tree.child? "in_operator", tree.child? "value_list" with
      | some operator, some list => .ok (.membership rules name operator.operator? list.values)
      | _, _ => .ok .ignored := by
  unfold readForm
  cases first : tree.child? "operator" with
  | none => rfl
  | some operator =>
      cases second : tree.child? "value" with
      | none => rfl
      | some value =>
          have complete := (Tree.child?_eq_some_iff.mp first).neither_lacks
            (Tree.child?_eq_some_iff.mp second)
          exact absurd incomplete complete

theorem readForm_membership {operator list : Tree}
    (incomplete : Lacks tree "operator" ∨ Lacks tree "value")
    (first : FirstChild tree "in_operator" operator)
    (second : FirstChild tree "value_list" list) :
    readForm tree name rules = .ok (.membership rules name operator.operator? list.values) := by
  rw [readForm_incomplete incomplete, Tree.child?_eq_some_iff.mpr first,
    Tree.child?_eq_some_iff.mpr second]

theorem readForm_formless (incomplete : Lacks tree "operator" ∨ Lacks tree "value")
    (unlisted : Lacks tree "in_operator" ∨ Lacks tree "value_list") :
    readForm tree name rules = .ok .ignored := by
  rw [readForm_incomplete incomplete]
  cases first : tree.child? "in_operator" with
  | none => rfl
  | some operator =>
      cases second : tree.child? "value_list" with
      | none => rfl
      | some list =>
          have complete := (Tree.child?_eq_some_iff.mp first).neither_lacks
            (Tree.child?_eq_some_iff.mp second)
          exact absurd unlisted complete

variable {lookup : FieldLookup}

theorem read_fieldless (absent : Lacks tree "field") : read lookup tree = .ok .ignored := by
  simp [read, Tree.subject?, Tree.child?_eq_none_iff.mpr absent]

theorem read_nameless {field : Tree} (first : FirstChild tree "field" field)
    (unnamed : Nameless field) : read lookup tree = .ok .ignored := by
  simp [read, Tree.subject?, Tree.child?_eq_some_iff.mpr first,
    Tree.identifier?_eq_none_iff.mpr unnamed]

theorem read_unknown {field : Tree} (first : FirstChild tree "field" field)
    (named : Names field name) (missing : lookup.find? name.text = none) :
    read lookup tree = .ok .ignored := by
  simp [read, Tree.subject?, Tree.child?_eq_some_iff.mpr first,
    Tree.identifier?_eq_some_iff.mpr named, missing]

theorem read_known {field : Tree} {entry : FieldEntry} (first : FirstChild tree "field" field)
    (named : Names field name) (found : lookup.find? name.text = some entry) :
    read lookup tree = readForm tree name entry.rules := by
  simp [read, Tree.subject?, Tree.child?_eq_some_iff.mpr first,
    Tree.identifier?_eq_some_iff.mpr named, found]

end Condition

end WorkItemQuery
