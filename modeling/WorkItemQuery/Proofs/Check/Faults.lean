import WorkItemQuery.Proofs.Check.WellTyped
import WorkItemQuery.Proofs.OrderedMap
import WorkItemQuery.Proofs.Tree.Span

/-!
# Faults

The parts of a condition are without fault exactly if they are well typed.
-/

namespace WorkItemQuery

open Text

theorem ValueKind.ofTerminal?_eq_some_iff {terminal : String} {kind : ValueKind} :
    ofTerminal? terminal = some kind ↔ (terminal, kind) ∈ terminals := by
  constructor
  · intro found
    obtain ⟨before, after, split, _⟩ := List.lookup_eq_some_iff.mp found
    rw [split]
    exact List.mem_append_right before (List.mem_cons_self ..)
  · intro member
    simp only [terminals, List.mem_cons, Prod.mk.injEq, List.not_mem_nil, or_false] at member
    rcases member with ⟨rfl, rfl⟩ | ⟨rfl, rfl⟩ | ⟨rfl, rfl⟩ | ⟨rfl, rfl⟩ <;> rfl

theorem variable_not_mem_terminals (kind : ValueKind) :
    ("VARIABLE", kind) ∉ ValueKind.terminals := by
  cases kind <;> decide

theorem Token.isVariable_iff (token : Token) :
    token.isVariable = true ↔ token.kind = "VARIABLE" := by
  simp [Token.isVariable]

theorem DeclaredType.same_known_iff {declared : DeclaredType} {type : FieldType} :
    declared.same (.known type) = true ↔ declared = .known type := by
  cases declared <;> simp [same]

namespace VariableTable

variable {table : VariableTable} {text : String}

theorem typeOf?_eq_none_iff :
    table.typeOf? text = none ↔
      ∀ type, table.get? (lowercase text) = some type → type.isNull = true := by
  simp [typeOf?, Option.filter_eq_none_iff]

theorem typeOf?_eq_some_iff {declared : DeclaredType} :
    table.typeOf? text = some declared ↔
      table.get? (lowercase text) = some declared ∧ declared.isNull = false := by
  simp [typeOf?, Option.filter_eq_some_iff]

theorem typeOf?_eq_known_iff {type : FieldType} :
    table.typeOf? text = some (.known type) ↔
      table.get? (lowercase text) = some (.known type) :=
  typeOf?_eq_some_iff.trans (and_iff_left rfl)

theorem Typed.typeOf? (typed : table.Typed) {declared : DeclaredType}
    (held : table.typeOf? text = some declared) : ∃ type, declared = .known type := by
  obtain ⟨found, present⟩ := typeOf?_eq_some_iff.mp held
  obtain ⟨entry, member, same⟩ := OrderedMap.mem_of_get? found
  rcases typed entry member with null | known
  · rw [same, present] at null
    cases null
  · rwa [same] at known

end VariableTable

theorem kindFault?_eq_none_iff {expected : ValueKind} {actual : Option ValueKind} {token : Token} :
    kindFault? expected actual token = none ↔ actual = some expected := by
  rw [kindFault?]
  split <;> simp [*]

section ValueFault

variable {table : VariableTable} {type : FieldType} {token : Token}

theorem valueFault_of_unknown (mentions : token.kind = "VARIABLE")
    (missing : table.typeOf? token.text = none) :
    valueFault table (.known type) token = .ok none := by
  have isVariable := token.isVariable_iff.mpr mentions
  simp only [valueFault, DeclaredType.valueKind, DeclaredType.lookUp, isVariable, missing]
  rfl

theorem valueFault_of_known {expected : DeclaredType} {held : FieldType}
    (mentions : token.kind = "VARIABLE") (found : table.typeOf? token.text = some (.known held)) :
    valueFault table expected token =
      expected.valueKind.map (kindFault? · (some held.valueKind) token) := by
  have isVariable := token.isVariable_iff.mpr mentions
  simp only [valueFault, isVariable, found]
  cases expected.valueKind <;> rfl

theorem valueFault_of_constant {expected : DeclaredType} (constant : ¬ token.kind = "VARIABLE") :
    valueFault table expected token =
      expected.valueKind.map (kindFault? · token.literalKind? token) := by
  have isVariable : token.isVariable = false := by simpa [Token.isVariable] using constant
  simp only [valueFault, isVariable]
  cases expected.valueKind <;> rfl

theorem valueFault_of_variable {held : FieldType} (mentions : token.kind = "VARIABLE")
    (found : table.typeOf? token.text = some (.known held)) :
    valueFault table (.known type) token =
      .ok (kindFault? type.valueKind (some held.valueKind) token) :=
  valueFault_of_known mentions found

theorem valueFault_of_literal (constant : ¬ token.kind = "VARIABLE") :
    valueFault table (.known type) token =
      .ok (kindFault? type.valueKind token.literalKind? token) :=
  valueFault_of_constant constant

theorem valueFault_eq_none_iff (typed : table.Typed) :
    valueFault table (.known type) token = .ok none ↔ ScalarTyped table type.valueKind token := by
  by_cases mentions : token.kind = "VARIABLE"
  · have unwritten (kind : ValueKind) : (token.kind, kind) ∉ ValueKind.terminals := by
      rw [mentions]
      exact variable_not_mem_terminals kind
    cases held : table.typeOf? token.text with
    | none =>
        have untyped := VariableTable.typeOf?_eq_none_iff.mp held
        exact iff_of_true (valueFault_of_unknown mentions held) (.unknownVariable mentions untyped)
    | some declared =>
        obtain ⟨known, rfl⟩ := typed.typeOf? held
        have found := VariableTable.typeOf?_eq_known_iff.mp held
        rw [valueFault_of_variable mentions held, Except.ok.injEq, kindFault?_eq_none_iff,
          Option.some_inj]
        constructor
        · intro same
          exact .typedVariable mentions found same
        · intro scalar
          cases scalar with
          | unknownVariable _ untyped => exact absurd (untyped _ found) Bool.false_ne_true
          | typedVariable _ other same =>
              rw [found] at other
              cases other
              exact same
          | literal writes => exact absurd writes (unwritten _)
  · rw [valueFault_of_literal mentions, Except.ok.injEq, kindFault?_eq_none_iff,
      Token.literalKind?, ValueKind.ofTerminal?_eq_some_iff]
    constructor
    · exact .literal
    · intro scalar
      cases scalar with
      | unknownVariable other _ => exact absurd other mentions
      | typedVariable other _ _ => exact absurd other mentions
      | literal writes => exact writes

end ValueFault

theorem fieldFault?_eq_none_iff {lookup : FieldLookup} {type : FieldType} {target : Tree} :
    fieldFault? lookup (.known type) target = none ↔ FieldTyped lookup type target := by
  cases named : target.identifier? with
  | none =>
      refine iff_of_true (by rw [fieldFault?, named]; rfl) ?_
      intro name _ names _
      rw [Tree.identifier?_eq_some_iff.mpr names] at named
      cases named
  | some name =>
      have only (other : Token) : Names target other ↔ name = other := by
        rw [← Tree.identifier?_eq_some_iff, named, Option.some_inj]
      cases found : lookup.find? name.text with
      | none =>
          refine iff_of_true ?_ ?_
          · simp [fieldFault?, named, found]
          · intro other entry names held
            rw [← (only other).mp names, found] at held
            cases held
      | some entry =>
          have checked : fieldFault? lookup (.known type) target = none ↔
              entry.rules.fieldType.same (.known type) = true := by
            simp [fieldFault?, named, found]
          rw [checked, DeclaredType.same_known_iff]
          constructor
          · intro same other held names again
            rw [← (only other).mp names, found] at again
            cases again
            exact same
          · intro typed
            exact typed name entry ((only name).mpr rfl) found

theorem listedFault_of_scalar {table : VariableTable} {expected : DeclaredType} {value : Tree}
    {token : Token} (read : value.operand = .ok (some (.scalar token))) :
    listedFault table expected value = valueFault table expected token := by
  simp only [listedFault, read]
  rfl

theorem listedFault_of_field {table : VariableTable} {type : FieldType} {value field : Tree}
    (read : value.operand = .ok (some (.field field))) :
    listedFault table (.known type) value = .ok none ↔ Nameless field := by
  rw [← Tree.identifier?_eq_none_iff]
  cases named : field.identifier? with
  | none =>
      refine iff_of_true ?_ rfl
      simp only [listedFault, read, bind, Except.bind, named]
      rfl
  | some name =>
      obtain ⟨span, spanned⟩ := Tree.span_total (Tree.identifier?_eq_some_iff.mp named).mem
      refine iff_of_false ?_ (fun missing => by cases missing)
      simp [listedFault, read, bind, Except.bind, named, Diagnostic.atNode, Node.span, spanned,
        Except.map]

theorem listedFault_eq_none_iff {table : VariableTable} (typed : table.Typed) {type : FieldType}
    {value : Tree} (present : Node.absent ∉ value.children) :
    listedFault table (.known type) value = .ok none ↔ ListedTyped table type value := by
  obtain ⟨operand, read⟩ := value.operand_total present
  cases operand with
  | none =>
      have empty : WithoutOperand value := (Tree.operand_eq_none_iff present).mp read
      refine iff_of_true ?_ (.withoutOperand empty)
      simp only [listedFault, read]
      rfl
  | some operand =>
      have holds : Holds value operand := (Tree.operand_eq_some_iff present).mp read
      cases operand with
      | scalar token =>
          rw [listedFault_of_scalar read, valueFault_eq_none_iff typed,
            listedTyped_scalar_iff holds]
      | field field => rw [listedFault_of_field read, listedTyped_field_iff holds]

theorem operatorFault?_eq_none_iff {rules : OperatorRules} {name : Token}
    {operator : Token × Operator} {side : RightSide} :
    operatorFault? rules name operator side = none ↔ operator.2 ∈ rules.operators side := by
  simp only [operatorFault?]
  split
  case isTrue empty => simp [List.isEmpty_iff.mp empty]
  case isFalse _ => split <;> simp [*]

theorem groupFault?_eq_none_iff {rules : OperatorRules} {name : Token}
    {operator : Option (Token × Operator)} :
    groupFault? rules name operator = none ↔
      ∃ token written, operator = some (token, written) ∧ written ∈ rules.group := by
  simp only [groupFault?]
  split
  case isTrue empty => simp [List.isEmpty_iff.mp empty]
  case isFalse _ =>
    cases operator with
    | none => simp
    | some operator =>
        obtain ⟨token, written⟩ := operator
        by_cases legal : written ∈ rules.group
        · simp only [Option.any_some, legal, decide_true, if_true, true_iff]
          exact ⟨token, written, rfl, legal⟩
        · simp only [Option.any_some, legal, decide_false, Bool.false_eq_true, if_false,
            reduceCtorEq, false_iff]
          intro allowed
          obtain ⟨_, _, same, held⟩ := allowed
          cases same
          exact legal held

end WorkItemQuery
