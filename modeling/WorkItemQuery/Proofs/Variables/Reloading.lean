import WorkItemQuery.Proofs.Variables.Loading

/-!
# Loading a loaded table

What was loaded is in the form in which it would be loaded again: its names stay as they are when
they are lowered, and its types are written by their own names. Nor does it matter to what is loaded
how the names were spelled. Main statement: `loaded_table_loads_to_itself`.
-/

namespace WorkItemQuery

open Text

/-- The raw value that a declared type stands for. -/
def DeclaredType.toRaw : DeclaredType → RawValue
  | .known type => .text type.name
  | .unknown value _ => value

namespace VariableTable

/-- The table as a configuration would have it. -/
def toConfigured (table : VariableTable) : RawMapping where
  entries := table.entries.map fun entry => (.text entry.1, entry.2.toRaw)

/-- The same pair with another spelling of its name, which still has the marker in front. -/
structure Respelled (pair other : RawValue × RawValue) : Prop where
  names : ∃ name spelling, pair.1 = .text name ∧ other.1 = .text spelling ∧
    lowercase spelling = lowercase name ∧ spelling.toList.head? = some variableMarker
  type : other.2 = pair.2

section Reloading

variable {configured : RawMapping} {table : VariableTable} {pair other : RawValue × RawValue}
  {pairs others : List (RawValue × RawValue)} {entry : String × DeclaredType}
  {given : List (String × DeclaredType)}

theorem isMarked_of_lowercase {name : String} (marker : name.toList.head? = some variableMarker)
    (lowered : IsMarked (lowercase name)) : IsMarked name := by
  refine ⟨marker, ?_⟩
  obtain ⟨rest, spelled⟩ := List.head?_eq_some_iff.mp marker
  cases rest with
  | nil =>
      -- the marker alone would stay alone when it is lowered
      have settled : Settled variableMarker := by decide +kernel
      have alone : lowerFrom [] [variableMarker] = [variableMarker] :=
        lowerFrom_of_settled (List.forall_mem_singleton.mpr settled)
      have longer := lowered.longer
      simp [← String.length_toList, spelled, alone] at longer
  | cons second rest => simp [← String.length_toList, spelled]

theorem Gives.respelled (gives : Gives pair entry) (respelled : Respelled pair other) :
    Gives other entry := by
  obtain ⟨named, marked, typed⟩ := gives
  obtain ⟨⟨name, spelling, same, renamed, lowered, marker⟩, sameType⟩ := respelled
  cases named.symm.trans same
  have kept : IsMarked (lowercase spelling) := lowered ▸ marked.lowered
  rw [← lowered]
  exact .intro renamed (isMarked_of_lowercase marker kept) (sameType ▸ typed)

theorem given_of_respelled (gave : List.Forall₂ Gives pairs given)
    (respelled : List.Forall₂ Respelled pairs others) : List.Forall₂ Gives others given := by
  induction respelled generalizing given with
  | nil =>
      cases gave
      exact .nil
  | cons first _ ih =>
      cases gave with
      | cons here later => exact .cons (here.respelled first) (ih later)

theorem Gives.again (gives : Gives pair entry) : Gives (.text entry.1, entry.2.toRaw) entry := by
  cases gives with
  | @intro name type _ marked _ =>
      have given : Gives (.text (lowercase name), .text type.name)
          (lowercase (lowercase name), .known type) := .intro rfl marked.lowered type.isSpelledBy_name
      rwa [lowercase_lowercase] at given

theorem load_toConfigured (loaded : load configured = .ok table) :
    load table.toConfigured = .ok table := by
  have normal : table.Normal := load_normal loaded
  obtain ⟨given, gave, made⟩ := load_eq_ok_iff.mp loaded
  refine load_eq_ok_iff.mpr ⟨table.entries, ?_, (OrderedMap.ofPairs_entries normal.distinct).symm⟩
  refine List.forall₂_map_left_iff.mpr (List.forall₂_same.mpr fun entry member => ?_)
  have put : entry ∈ given := OrderedMap.mem_entries_ofPairs (made ▸ member)
  obtain ⟨pair, -, gives⟩ := exists_mem_of_forall₂ gave put
  exact gives.again

theorem load_of_respelled (loaded : load configured = .ok table) {other : RawMapping}
    (respelled : List.Forall₂ Respelled configured.entries other.entries) :
    load other = .ok table := by
  obtain ⟨given, gave, made⟩ := load_eq_ok_iff.mp loaded
  exact load_eq_ok_iff.mpr ⟨given, given_of_respelled gave respelled, made⟩

/-- A loaded table can be loaded again and stays as it is, in its names, its types and its order;
and it is also what comes of the table that it was loaded from, however the names there are
spelled. -/
theorem loaded_table_loads_to_itself (loaded : load configured = .ok table) :
    load table.toConfigured = .ok table ∧
      ∀ other : RawMapping, List.Forall₂ Respelled configured.entries other.entries →
        load other = .ok table :=
  ⟨load_toConfigured loaded, fun _ respelled => load_of_respelled loaded respelled⟩

end Reloading

namespace Spellings

def table : VariableTable where
  entries := [("@οδός", .known .dateTime), ("@me", .known .string)]

/-- The two spellings of the first name have changed places. -/
def respelled : RawMapping where
  entries :=
    [(.text "@ΟΔΌΣ", .text "integer"), (.text "@me", .text "STRING"),
     (.text "@Οδός", .text "DateTime")]

theorem configured_loads : load configured = .ok table := by
  have small : lowercase "@Οδός" = "@οδός" := by decide +kernel
  have capital : lowercase "@ΟΔΌΣ" = "@οδός" := by decide +kernel
  have me : lowercase "@Me" = "@me" := by decide +kernel
  refine load_eq_ok_iff.mpr
    ⟨_, .cons small_gives (.cons me_gives (.cons capital_gives .nil)), ?_⟩
  rw [small, capital, me]
  rfl

theorem names_respelled : List.Forall₂ Respelled configured.entries respelled.entries := by
  have first : lowercase "@ΟΔΌΣ" = lowercase "@Οδός" := by decide +kernel
  have second : lowercase "@me" = lowercase "@Me" := by decide +kernel
  exact .cons ⟨⟨_, _, rfl, rfl, first, rfl⟩, rfl⟩ (.cons ⟨⟨_, _, rfl, rfl, second, rfl⟩, rfl⟩
    (.cons ⟨⟨_, _, rfl, rfl, first.symm, rfl⟩, rfl⟩ .nil))

end Spellings

open Spellings in
theorem spellings_exchanged_load_alike :
    load configured = .ok table ∧ load table.toConfigured = .ok table ∧
      load respelled = .ok table := by
  obtain ⟨again, alike⟩ := loaded_table_loads_to_itself configured_loads
  exact ⟨configured_loads, again, alike respelled names_respelled⟩

end VariableTable

end WorkItemQuery
