import Mathlib.Data.List.Basic
import WorkItemQuery.OrderedMap

/-!
# Entries of ordered maps

A map that keys were set in has each key once, so its entries are what its keys lead to. Of several
values that a key is set to, it leads to the last.
-/

namespace WorkItemQuery.OrderedMap

variable {κ α : Type} [BEq κ] {map : OrderedMap κ α} {key : κ} {value : α}

theorem mem_of_get? (held : map.get? key = some value) :
    ∃ entry ∈ map.entries, entry.2 = value := by
  obtain ⟨entry, found, same⟩ := Option.map_eq_some_iff.mp held
  exact ⟨entry, List.mem_of_find?_eq_some found, same⟩

variable [LawfulBEq κ]

theorem get?_eq_none_iff : map.get? key = none ↔ key ∉ map.keys := by
  rw [get?, Option.map_eq_none_iff, List.find?_eq_none, keys, List.mem_map]
  simp only [beq_iff_eq, not_exists, not_and]

theorem get?_of_mem (distinct : map.keys.Nodup) (member : (key, value) ∈ map.entries) :
    map.get? key = some value := by
  obtain ⟨entries⟩ := map
  induction entries with
  | nil => cases member
  | cons entry rest ih =>
      obtain ⟨fresh, distinct⟩ := List.nodup_cons.mp distinct
      rcases List.mem_cons.mp member with rfl | later
      · simp [get?]
      · have other : entry.1 ≠ key := by
          rintro rfl
          exact fresh (List.mem_map.mpr ⟨_, later, rfl⟩)
        simpa [get?, other] using ih distinct later

theorem mem_keys_set {other : κ} :
    other ∈ (map.set key value).keys ↔ other ∈ map.keys ∨ other = key := by
  rw [keys_set]
  split
  case isTrue held =>
    refine (or_iff_left_of_imp ?_).symm
    rintro rfl
    exact List.contains_iff_mem.mp held
  case isFalse _ => simp

theorem eraseDups_concat (items : List κ) (item : κ) :
    (items ++ [item]).eraseDups =
      if items.contains item then items.eraseDups else items.eraseDups ++ [item] := by
  rw [List.eraseDups_append]
  by_cases held : item ∈ items <;> simp [List.removeAll, List.eraseDups_cons, held]

/-- Where the keys are some items in the order in which each came first, they stay so when one more
key is set. -/
theorem keys_set_of_eraseDups {items : List κ} (collected : map.keys = items.eraseDups) :
    (map.set key value).keys = (items ++ [key]).eraseDups := by
  rw [keys_set, eraseDups_concat, collected]
  simp only [List.contains_eq_mem, List.mem_eraseDups]

theorem nodup_keys_set (distinct : map.keys.Nodup) : (map.set key value).keys.Nodup := by
  rw [keys_set]
  split
  case isTrue _ => exact distinct
  case isFalse fresh =>
    refine List.nodup_append.mpr ⟨distinct, by simp, ?_⟩
    rintro held member _ added rfl
    exact fresh (List.contains_iff_mem.mpr (List.mem_singleton.mp added ▸ member))

/-- The keys, each with what it leads to, are the entries. -/
theorem filterMap_get?_keys (distinct : map.keys.Nodup) :
    map.keys.filterMap (fun key => (map.get? key).map (key, ·)) = map.entries := by
  rw [keys, List.filterMap_map]
  calc
    _ = map.entries.filterMap some := List.filterMap_congr fun entry member => by
      rw [Function.comp_apply, get?_of_mem distinct member]
      rfl
    _ = map.entries := List.filterMap_some

theorem set_of_fresh (fresh : key ∉ map.keys) :
    map.set key value = ⟨map.entries ++ [(key, value)]⟩ := by
  obtain ⟨entries⟩ := map
  rw [set, mk.injEq]
  induction entries with
  | nil => rfl
  | cons entry rest ih =>
      obtain ⟨other, later⟩ := not_or.mp (mt List.mem_cons.mpr fresh)
      rw [setEntry, if_neg (mt eq_of_beq (Ne.symm other)), ih later, List.cons_append]

section Pairs

variable {pairs : List (κ × α)}

theorem foldl_set_of_fresh (distinct : (map.keys ++ pairs.map (·.1)).Nodup) :
    pairs.foldl (fun map pair => map.set pair.1 pair.2) map = ⟨map.entries ++ pairs⟩ := by
  induction pairs generalizing map with
  | nil => rw [List.foldl_nil, List.append_nil]
  | cons pair rest ih =>
      have fresh : pair.1 ∉ map.keys := fun held =>
        (List.nodup_append.mp distinct).2.2 _ held _ List.mem_cons_self rfl
      rw [List.foldl_cons, set_of_fresh fresh, ih, List.append_assoc, List.singleton_append]
      simpa [keys] using distinct

theorem ofPairs_entries (distinct : map.keys.Nodup) : ofPairs map.entries = map :=
  foldl_set_of_fresh (by simpa [keys, empty] using distinct)

theorem mem_entries_set {entry : κ × α} (member : entry ∈ (map.set key value).entries) :
    entry ∈ map.entries ∨ entry = (key, value) := by
  obtain ⟨entries⟩ := map
  simp only [set] at member ⊢
  induction entries with
  | nil => exact .inr (List.mem_singleton.mp member)
  | cons first rest ih =>
      rw [setEntry] at member
      split at member
      case isTrue same =>
        rcases List.mem_cons.mp member with rfl | later
        · exact .inr (by rw [eq_of_beq same])
        · exact .inl (List.mem_cons_of_mem first later)
      case isFalse _ =>
        rcases List.mem_cons.mp member with rfl | later
        · exact .inl List.mem_cons_self
        · exact (ih later).imp_left (List.mem_cons_of_mem first)

theorem mem_entries_foldl_set {entry : κ × α}
    (member : entry ∈ (pairs.foldl (fun map pair => map.set pair.1 pair.2) map).entries) :
    entry ∈ map.entries ∨ entry ∈ pairs := by
  induction pairs generalizing map with
  | nil => exact .inl member
  | cons pair rest ih =>
      rcases ih member with held | later
      · rcases mem_entries_set held with before | rfl
        · exact .inl before
        · exact .inr List.mem_cons_self
      · exact .inr (List.mem_cons_of_mem pair later)

theorem mem_entries_ofPairs {entry : κ × α} (member : entry ∈ (ofPairs pairs).entries) :
    entry ∈ pairs :=
  (mem_entries_foldl_set member).resolve_left List.not_mem_nil

end Pairs

end WorkItemQuery.OrderedMap
