import Mathlib.Data.List.Nodup
import WorkItemQuery.FieldType

/-!
# Spelled types

A raw value names a type when it is a text that spells the name of the type in any case. Reading a
value finds the type that it names, and nothing where it names none.
-/

namespace WorkItemQuery.FieldType

open Text

variable {value : RawValue} {type : FieldType}

def IsSpelledBy (type : FieldType) (value : RawValue) : Prop :=
  ∃ text, value = .text text ∧ lowercase text = lowercase type.name

theorem isSpelledBy_name (type : FieldType) : type.IsSpelledBy (.text type.name) :=
  ⟨type.name, rfl, rfl⟩

theorem lowered_names_nodup : (all.map fun type => lowercase type.name).Nodup := by
  decide +kernel

theorem eq_of_lowercase_name {other : FieldType}
    (same : lowercase type.name = lowercase other.name) : type = other :=
  List.inj_on_of_nodup_map lowered_names_nodup (mem_all type) (mem_all other) same

theorem read?_text (text : String) :
    read? (.text text) = all.find? fun type => lowercase type.name == lowercase text := rfl

theorem read?_eq_some_iff : read? value = some type ↔ type.IsSpelledBy value := by
  constructor
  · intro found
    cases value with
    | text name =>
        rw [read?_text] at found
        have spelled := List.find?_some found
        exact ⟨name, rfl, (eq_of_beq spelled).symm⟩
    | _ => cases found
  · rintro ⟨text, rfl, spelled⟩
    rw [read?_text]
    cases found : all.find? fun type => lowercase type.name == lowercase text with
    | none =>
        have missed := List.find?_eq_none.mp found type (mem_all type)
        exact absurd (beq_iff_eq.mpr spelled.symm) missed
    | some other =>
        have same := List.find?_some found
        rw [eq_of_lowercase_name ((eq_of_beq same).trans spelled)]

theorem read?_eq_none_iff : read? value = none ↔ ∀ type : FieldType, ¬ type.IsSpelledBy value := by
  simp only [Option.eq_none_iff_forall_ne_some, ne_eq, read?_eq_some_iff]

end WorkItemQuery.FieldType
