/-!
# Ordered maps

A map that remembers the order in which its keys came: a key that is set again keeps its place and
its spelling and takes the new value.
-/

namespace WorkItemQuery

structure OrderedMap (κ α : Type) where
  entries : List (κ × α)

namespace OrderedMap

variable {κ α : Type} [BEq κ]

def empty : OrderedMap κ α :=
  ⟨[]⟩

/-- Replaces the value of the first entry with the key, or adds an entry at the end. -/
def setEntry (key : κ) (value : α) : List (κ × α) → List (κ × α)
  | [] => [(key, value)]
  | entry :: rest =>
      if entry.1 == key then (entry.1, value) :: rest else entry :: setEntry key value rest

def set (map : OrderedMap κ α) (key : κ) (value : α) : OrderedMap κ α :=
  ⟨setEntry key value map.entries⟩

def get? (map : OrderedMap κ α) (key : κ) : Option α :=
  (map.entries.find? (·.1 == key)).map (·.2)

def contains (map : OrderedMap κ α) (key : κ) : Bool :=
  (map.get? key).isSome

omit [BEq κ] in
def keys (map : OrderedMap κ α) : List κ :=
  map.entries.map (·.1)

omit [BEq κ] in
def size (map : OrderedMap κ α) : Nat :=
  map.entries.length

/-- Sets the pairs one after the other. -/
def ofPairs (pairs : List (κ × α)) : OrderedMap κ α :=
  pairs.foldl (fun map pair => map.set pair.1 pair.2) empty

@[simp] theorem get?_empty (key : κ) : (empty : OrderedMap κ α).get? key = none := rfl

theorem get?_set [LawfulBEq κ] (map : OrderedMap κ α) (key other : κ) (value : α) :
    (map.set key value).get? other = if key == other then some value else map.get? other := by
  obtain ⟨entries⟩ := map
  induction entries with
  | nil =>
      by_cases same : key = other <;> simp [get?, set, setEntry, same]
  | cons entry rest ih =>
      obtain ⟨first, held⟩ := entry
      simp only [get?, set] at ih ⊢
      by_cases here : first = key
      · subst here
        by_cases same : first = other <;> simp [setEntry, same]
      · by_cases same : first = other
        · subst same
          simp [setEntry, here, Ne.symm here]
        · simpa [setEntry, here, same] using ih

/-- A key that is set again keeps its place; a new key comes last. -/
theorem keys_set [LawfulBEq κ] (map : OrderedMap κ α) (key : κ) (value : α) :
    (map.set key value).keys =
      if map.keys.contains key then map.keys else map.keys ++ [key] := by
  obtain ⟨entries⟩ := map
  induction entries with
  | nil => simp [keys, set, setEntry]
  | cons entry rest ih =>
      obtain ⟨first, held⟩ := entry
      simp only [keys, set, List.contains_eq_mem] at ih ⊢
      by_cases here : first = key
      · subst here
        simp [setEntry]
      · by_cases member : key ∈ rest.map (·.1)
        · simp_all [setEntry, Ne.symm here]
        · simp_all [setEntry, Ne.symm here]

end OrderedMap

end WorkItemQuery
