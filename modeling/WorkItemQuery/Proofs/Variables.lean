import WorkItemQuery.Proofs.Except
import WorkItemQuery.Proofs.OrderedMap
import WorkItemQuery.Proofs.Text.Lowercase
import WorkItemQuery.Variables

/-!
# Loaded variable tables

A table that was read from a configuration has lowercase variable names, each of them once, so that
a variable is found under any spelling of its name.
-/

namespace WorkItemQuery

open Text

theorem isVariableName_iff {name : String} :
    isVariableName name = true ↔ ∃ first rest, name.toList = variableMarker :: first :: rest := by
  rw [isVariableName]
  constructor
  · intro named
    split at named
    case h_1 marker first rest spelled =>
      exact ⟨first, rest, by rw [spelled, eq_of_beq named]⟩
    case h_2 _ => cases named
  · intro spelled
    obtain ⟨first, rest, spelled⟩ := spelled
    rw [spelled]
    exact beq_self_eq_true variableMarker

theorem isVariableName_lowercase {name : String} (named : isVariableName name = true) :
    isVariableName (lowercase name) = true := by
  obtain ⟨first, rest, spelled⟩ := isVariableName_iff.mp named
  have present : lowerAt [variableMarker] first rest ≠ [] := lowerAt_ne_nil
  obtain ⟨lowered, others, same⟩ := List.exists_cons_of_ne_nil present
  have marker : Settled variableMarker := by decide +kernel
  refine isVariableName_iff.mpr ⟨lowered, others ++ lowerFrom [first, variableMarker] rest, ?_⟩
  rw [toList_lowercase, spelled, lowerFrom, lowerFrom, lowerAt_of_settled marker, same]
  rfl

namespace VariableTable

structure Normal (table : VariableTable) : Prop where
  distinct : table.keys.Nodup
  lowered : ∀ name ∈ table.keys, lowercase name = name
  named : ∀ name ∈ table.keys, isVariableName name = true

variable {table next : VariableTable}

theorem Normal.empty : Normal .empty where
  distinct := List.nodup_nil
  lowered := by simp [OrderedMap.keys, OrderedMap.empty]
  named := by simp [OrderedMap.keys, OrderedMap.empty]

theorem Normal.set (normal : table.Normal) {name : String} (named : isVariableName name = true)
    (type : DeclaredType) : Normal (OrderedMap.set table (lowercase name) type) where
  distinct := OrderedMap.nodup_keys_set normal.distinct
  lowered := by
    intro other member
    rcases OrderedMap.mem_keys_set.mp member with held | rfl
    · exact normal.lowered other held
    · exact lowercase_lowercase name
  named := by
    intro other member
    rcases OrderedMap.mem_keys_set.mp member with held | rfl
    · exact normal.named other held
    · exact isVariableName_lowercase named

theorem Normal.addPair {pair : RawValue × RawValue} (normal : table.Normal)
    (added : addPair table pair = .ok next) : next.Normal := by
  rw [VariableTable.addPair] at added
  split at added
  case h_1 _ => cases added
  case h_2 name _ =>
    split at added
    case isFalse _ => cases added
    case isTrue named =>
      split at added
      case h_1 type _ =>
        cases added
        exact normal.set named (.known type)
      case h_2 _ => cases added

theorem load_normal {configured : RawMapping} (loaded : load configured = .ok table) :
    table.Normal :=
  foldlM_preserves (fun _ _ _ normal added => Normal.addPair normal added) .empty loaded

/-- Whatever the spelling, a variable has the type that the table has it with. -/
theorem Normal.typeOf?_of_mem (normal : table.Normal) {name text : String} {type : FieldType}
    (member : (name, .known type) ∈ table.entries) (same : lowercase text = lowercase name) :
    table.typeOf? text = some (.known type) := by
  have key : name ∈ table.keys := List.mem_map.mpr ⟨_, member, rfl⟩
  have held : table.get? name = some (.known type) := OrderedMap.get?_of_mem normal.distinct member
  rw [typeOf?, same, normal.lowered name key, held]
  rfl

end VariableTable

end WorkItemQuery
