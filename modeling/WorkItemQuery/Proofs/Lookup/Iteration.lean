import WorkItemQuery.Proofs.Lookup.Names
import WorkItemQuery.Proofs.Text.Lowercase

/-!
# Iterating over a built lookup

What a lookup lists is what it finds: a name leads to an entry exactly if its lower case is among
the keys, and the keys with their entries make up the lookup again. This needs the keys, which are
lowered when fields are added, to stay as they are when a name that is looked up is lowered.
Main statement: `iteration_agrees_with_access`.
-/

namespace WorkItemQuery

open Text

theorem FieldEntry.isSame_self (entry : FieldEntry) : entry.isSame entry = true := by
  cases entry <;> simp [isSame]

namespace FieldLookup

variable {fields : List FieldDescriptor} {lookup : FieldLookup} {key : String}

/-- The keys, each with the entry that it leads to. -/
def listing (lookup : FieldLookup) : List (String × FieldEntry) :=
  lookup.keys.filterMap fun key => (lookup.find? key).map (key, ·)

theorem find?_of_lowered (lowered : lowercase key = key) :
    lookup.find? key = lookup.entries.get? key := by
  rw [find?, lowered]

theorem find?_ne_none_iff {name : String} :
    lookup.find? name ≠ none ↔ lowercase name ∈ lookup.keys := by
  rw [find?, keys, ne_eq, OrderedMap.get?_eq_none_iff, not_not]

theorem sameEntry_of_found {name other : String} {entry : FieldEntry}
    (found : lookup.find? name = some entry) (same : lookup.find? other = some entry) :
    lookup.sameEntry (.text name) (.text other) = .ok true := by
  have left : lookup.findValue (.text name) = .ok (some entry) := congrArg Except.ok found
  have right : lookup.findValue (.text other) = .ok (some entry) := congrArg Except.ok same
  rw [sameEntry, left, right]
  exact congrArg Except.ok entry.isSame_self

theorem build_keys_lowered (built : build fields = .ok lookup) :
    ∀ key ∈ lookup.keys, lowercase key = key := by
  intro key member
  rw [build_keys built, List.mem_eraseDups] at member
  obtain ⟨field, -, among⟩ := List.mem_flatMap.mp member
  obtain ⟨name, -, spelled⟩ := List.mem_filterMap.mp among
  obtain ⟨text, -, rfl⟩ := Option.map_eq_some_iff.mp spelled
  exact lowercase_lowercase text

theorem listing_eq_entries (lowered : ∀ key ∈ lookup.keys, lowercase key = key)
    (distinct : lookup.keys.Nodup) : lookup.listing = lookup.entries.entries := by
  rw [← OrderedMap.filterMap_get?_keys distinct]
  refine List.filterMap_congr fun key member => ?_
  rw [find?_of_lowered (lowered key member)]

/-- Every key of a built lookup is in lower case and leads to an entry, which it shares with all
spellings of the key. No other name leads anywhere, and the keys with their entries make up the same
lookup again. -/
theorem iteration_agrees_with_access (built : build fields = .ok lookup) :
    (∀ text, lowercase (lowercase text) = lowercase text) ∧
      (∀ key ∈ lookup.keys, lowercase key = key ∧ lookup.containsValue (.text key) = true ∧
        ∃ entry, lookup.find? key = some entry ∧
          ∀ text, lowercase text = key → lookup.find? text = some entry ∧
            lookup.sameEntry (.text text) (.text key) = .ok true) ∧
      (∀ name, lookup.find? name ≠ none ↔ lowercase name ∈ lookup.keys) ∧
      FieldLookup.mk (.ofPairs lookup.listing) = lookup := by
  have lowered := build_keys_lowered built
  have distinct := build_keys_nodup built
  refine ⟨lowercase_lowercase, ?_, fun name => find?_ne_none_iff, ?_⟩
  · intro key member
    have leads : lookup.find? key ≠ none :=
      find?_ne_none_iff.mpr ((lowered key member).symm ▸ member)
    obtain ⟨entry, found⟩ := Option.ne_none_iff_exists'.mp leads
    refine ⟨lowered key member, containsValue_iff.mpr ⟨key, rfl, leads⟩, entry, found, ?_⟩
    intro text spelled
    have same : lookup.find? text = some entry := by
      rw [find?, spelled, ← find?_of_lowered (lowered key member), found]
    exact ⟨same, sameEntry_of_found same found⟩
  · rw [listing_eq_entries lowered distinct, OrderedMap.ofPairs_entries distinct]

namespace Street

/-- Ends in a capital sigma, and its reference name has a capital I with a dot above. -/
def street : FieldDescriptor where
  name := .text "ΟΔΌΣ"
  referenceName := .text "Custom.İD"
  declaredType := .known .string

def streets : FieldLookup where
  entries := ⟨[("οδός", .typed .string), ("custom.i̇d", .typed .string)]⟩

theorem built : build [street] = .ok streets := by
  have name : lowercase "ΟΔΌΣ" = "οδός" := by decide +kernel
  have referenceName : lowercase "Custom.İD" = "custom.i̇d" := by decide +kernel
  have other : street.isLinkType = false := by decide +kernel
  rw [build, List.foldlM_cons, addField, FieldDescriptor.entry, other]
  simp only [nameKey, street, RawValue.text?, name, referenceName]
  rfl

end Street

open Street in
theorem street_listed_and_found :
    build [street] = .ok streets ∧ "οδός" ∈ streets.keys ∧
      streets.find? "Οδός" = some (.typed .string) ∧
      streets.sameEntry (.text "Οδός") (.text "οδός") = .ok true ∧ streets.find? "οδόσ" = none ∧
      FieldLookup.mk (.ofPairs streets.listing) = streets := by
  obtain ⟨-, listed, leads, again⟩ := iteration_agrees_with_access built
  have member : "οδός" ∈ streets.keys := List.mem_cons_self
  obtain ⟨-, -, entry, found, spelled⟩ := listed "οδός" member
  obtain ⟨same, shared⟩ := spelled "Οδός" (by decide +kernel)
  have typed : entry = .typed .string := by
    have given : streets.find? "οδός" = some (.typed .string) := rfl
    exact Option.some_inj.mp (found.symm.trans given)
  refine ⟨built, member, typed ▸ same, shared, ?_, again⟩
  exact not_not.mp (mt (leads "οδόσ").mp (by decide +kernel))

end FieldLookup

end WorkItemQuery
