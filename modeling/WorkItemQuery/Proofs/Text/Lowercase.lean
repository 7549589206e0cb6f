import Mathlib.Data.Nat.ModEq
import WorkItemQuery.Text.Lowercase

/-!
# Lowercase text stays as it is

Lowering a text a second time changes nothing. No rule leads to a character that a rule applies to,
so what a sigma has turned into, or a capital I with a dot above, no longer depends on the
characters around it.
-/

namespace WorkItemQuery.Text

namespace CaseRow

variable {row other : CaseRow} {code : Nat}

theorem covers_iff :
    row.covers code = true ↔
      row.first ≤ code ∧ code ≤ row.last ∧ row.step ∣ code - row.first := by
  simp [covers, Nat.dvd_iff_mod_eq_zero, and_assoc]

/-- Whether no character of the other row is where this row leads to: the other row lies above or
below, or the two are out of step. -/
def misses (row other : CaseRow) : Bool :=
  (row.lower row.last).blt other.first || other.last.blt row.image ||
    ((row.first.beq row.last || (row.step % other.step).beq 0) &&
      !(row.image % other.step).beq (other.first % other.step))

theorem misses_iff :
    row.misses other = true ↔
      row.lower row.last < other.first ∨ other.last < row.image ∨
        (row.first = row.last ∨ other.step ∣ row.step) ∧
          ¬ row.image ≡ other.first [MOD other.step] := by
  simp only [misses, Bool.or_eq_true, Bool.and_eq_true, Bool.not_eq_true', Nat.blt_eq, Nat.beq_eq,
    ← Bool.not_eq_true, Nat.dvd_iff_mod_eq_zero, Nat.ModEq, or_assoc]

theorem not_covers_lower (missed : row.misses other = true) (covered : row.covers code = true) :
    other.covers (row.lower code) = false := by
  obtain ⟨low, high, stepped⟩ := covers_iff.mp covered
  refine Bool.eq_false_iff.mpr fun reached => ?_
  obtain ⟨otherLow, otherHigh, otherStepped⟩ := covers_iff.mp reached
  have inStep : other.first ≡ row.lower code [MOD other.step] :=
    (Nat.modEq_iff_dvd' otherLow).mpr otherStepped
  simp only [CaseRow.lower] at otherLow otherHigh inStep
  rcases misses_iff.mp missed with above | below | ⟨single | divides, outOfStep⟩
  · simp only [CaseRow.lower] at above
    omega
  · omega
  · -- a row of one character leads to one character, whatever its step
    have start : row.image + (code - row.first) = row.image := by omega
    rw [start] at inStep
    exact outOfStep inStep.symm
  · have moved : row.image ≡ row.image + (code - row.first) [MOD other.step] := by
      refine (Nat.modEq_iff_dvd' (Nat.le_add_right _ _)).mpr ?_
      rw [Nat.add_sub_cancel_left]
      exact divides.trans stepped
    exact outOfStep (moved.trans inStep.symm)

end CaseRow

/-- The two capitals with rules of their own. -/
def specialRows : List CaseRow :=
  [⟨0x0130, 0x0130, 1, 0x0069⟩, ⟨0x03A3, 0x03A3, 1, 0x03C3⟩]

/-- A character that no rule applies to. -/
def Settled (c : Char) : Prop :=
  ∀ row ∈ specialRows ++ caseRows, row.covers c.toNat = false

instance (c : Char) : Decidable (Settled c) :=
  decidable_of_iff ((specialRows ++ caseRows).all (!·.covers c.toNat) = true) <| by
    simp only [Settled, List.all_eq_true, Bool.not_eq_true']

theorem caseRows_miss :
    (caseRows.all fun row => (specialRows ++ caseRows).all row.misses) = true := by
  decide +kernel

theorem caseRows_lower_isChar :
    (caseRows.all fun row => (row.lower row.last).blt 0xD800 ||
      (Nat.blt 0xDFFF row.image && (row.lower row.last).blt 0x110000)) = true := by
  decide +kernel

theorem toNat_ofNat_lower {row : CaseRow} (member : row ∈ caseRows) {code : Nat}
    (covered : row.covers code = true) : (Char.ofNat (row.lower code)).toNat = row.lower code := by
  have bounds := List.all_eq_true.mp caseRows_lower_isChar row member
  obtain ⟨low, high, -⟩ := CaseRow.covers_iff.mp covered
  simp only [CaseRow.lower, Bool.or_eq_true, Bool.and_eq_true, Nat.blt_eq] at bounds
  have valid : (row.lower code).isValidChar := by
    simp only [CaseRow.lower, Nat.isValidChar]
    omega
  rw [Char.ofNat, dif_pos valid]
  rfl

section Characters

variable {before after : List Char} {c : Char}

theorem settled_of_not_covered (sigma : c ≠ 'Σ') (dotted : c ≠ 'İ')
    (simple : ∀ row ∈ caseRows, row.covers c.toNat = false) : Settled c := by
  intro row member
  rcases List.mem_append.mp member with special | listed
  · simp only [specialRows, List.mem_cons, List.not_mem_nil, or_false] at special
    refine Bool.eq_false_iff.mpr fun covered => ?_
    obtain ⟨low, high, -⟩ := CaseRow.covers_iff.mp covered
    rcases special with rfl | rfl
    · exact dotted (Char.toNat_inj.mp (Nat.le_antisymm high low))
    · exact sigma (Char.toNat_inj.mp (Nat.le_antisymm high low))
  · exact simple row listed

theorem simpleLower_of_settled (settled : Settled c) : simpleLower c = c := by
  have uncovered : caseRows.find? (·.covers c.toNat) = none :=
    List.find?_eq_none.mpr fun row member =>
      Bool.eq_false_iff.mp (settled row (List.mem_append_right specialRows member))
  rw [simpleLower, uncovered]

theorem simpleLower_settled (sigma : c ≠ 'Σ') (dotted : c ≠ 'İ') : Settled (simpleLower c) := by
  rw [simpleLower]
  cases found : caseRows.find? (·.covers c.toNat) with
  | none =>
      refine settled_of_not_covered sigma dotted fun row member => ?_
      exact Bool.eq_false_iff.mpr (List.find?_eq_none.mp found row member)
  | some row =>
      have member : row ∈ caseRows := List.mem_of_find?_eq_some found
      have covered : row.covers c.toNat = true := by simpa using List.find?_some found
      intro other among
      have missed := List.all_eq_true.mp (List.all_eq_true.mp caseRows_miss row member) other among
      rw [toNat_ofNat_lower member covered]
      exact CaseRow.not_covers_lower missed covered

theorem lowerAt_ne_nil : lowerAt before c after ≠ [] := by
  rw [lowerAt]
  split
  · simp
  · split <;> simp

theorem sigma_settled : Settled 'σ' ∧ Settled 'ς' := by
  decide +kernel

theorem dotted_i_settled : Settled 'i' ∧ Settled '\u0307' := by
  decide +kernel

theorem lowerAt_settled : ∀ lowered ∈ lowerAt before c after, Settled lowered := by
  rw [lowerAt]
  split
  · refine List.forall_mem_singleton.mpr ?_
    split
    · exact sigma_settled.2
    · exact sigma_settled.1
  · rename_i sigma
    split
    · exact List.forall_mem_cons.mpr
        ⟨dotted_i_settled.1, List.forall_mem_singleton.mpr dotted_i_settled.2⟩
    · rename_i dotted
      exact List.forall_mem_singleton.mpr (simpleLower_settled sigma dotted)

theorem lowerAt_of_settled (settled : Settled c) : lowerAt before c after = [c] := by
  have sigma : c ≠ 'Σ' := by
    rintro rfl
    exact absurd settled (by decide +kernel)
  have dotted : c ≠ 'İ' := by
    rintro rfl
    exact absurd settled (by decide +kernel)
  rw [lowerAt, if_neg sigma, if_neg dotted, simpleLower_of_settled settled]

theorem lowerFrom_settled (characters : List Char) :
    ∀ lowered ∈ lowerFrom before characters, Settled lowered := by
  induction characters generalizing before with
  | nil => simp [lowerFrom]
  | cons c rest ih => exact List.forall_mem_append.mpr ⟨lowerAt_settled, ih⟩

theorem lowerFrom_of_settled {characters : List Char} (settled : ∀ c ∈ characters, Settled c) :
    lowerFrom before characters = characters := by
  induction characters generalizing before with
  | nil => rfl
  | cons c rest ih =>
      obtain ⟨first, later⟩ := List.forall_mem_cons.mp settled
      rw [lowerFrom, lowerAt_of_settled first, ih later, List.singleton_append]

end Characters

@[simp] theorem lowercase_lowercase (text : String) :
    lowercase (lowercase text) = lowercase text := by
  rw [← String.toList_inj, toList_lowercase (lowercase text), toList_lowercase]
  exact lowerFrom_of_settled (lowerFrom_settled text.toList)

end WorkItemQuery.Text
