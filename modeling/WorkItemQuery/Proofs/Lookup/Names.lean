import WorkItemQuery.Proofs.Lookup.Built
import WorkItemQuery.Proofs.Lookup.LastWins
import WorkItemQuery.Proofs.OrderedMap

/-!
# Names in a built lookup

A name, in any case, leads to the entry of the last field that has it, be it as its name or as its
reference name, and to nothing if no field has it. The keys are the names of the fields in lower
case, each once, in the order in which they first came. Main statement: `last_field_has_name`.
-/

namespace WorkItemQuery

open Text

namespace FieldLookup

variable {fields before after : List FieldDescriptor} {field : FieldDescriptor}
  {lookup : FieldLookup} {key : String}

section Keys

variable {entries next : OrderedMap String FieldEntry} {items : List String}

theorem nameKey_eq_ok_iff {name : RawValue} :
    nameKey name = .ok key ↔ name.text?.map lowercase = some key := by
  rw [nameKey]
  cases name.text? <;> simp

theorem addField_eq_ok (added : addField entries field = .ok next) :
    ∃ entry name referenceName, field.keys = [name, referenceName] ∧
      next = (entries.set name entry).set referenceName entry := by
  obtain ⟨entry, name, referenceName, -, named, referenced, rfl⟩ := addField_eq_ok_iff.mp added
  refine ⟨entry, name, referenceName, ?_, rfl⟩
  simp [FieldDescriptor.keys, nameKey_eq_ok_iff.mp named, nameKey_eq_ok_iff.mp referenced]

theorem addField_keys (collected : entries.keys = items.eraseDups)
    (added : addField entries field = .ok next) :
    next.keys = (items ++ field.keys).eraseDups := by
  obtain ⟨entry, name, referenceName, keys, rfl⟩ := addField_eq_ok added
  rw [keys, ← List.singleton_append, ← List.append_assoc]
  exact OrderedMap.keys_set_of_eraseDups (OrderedMap.keys_set_of_eraseDups collected)

theorem foldlM_addField_keys (collected : entries.keys = items.eraseDups)
    (folded : fields.foldlM addField entries = .ok next) :
    next.keys = (items ++ fields.flatMap FieldDescriptor.keys).eraseDups := by
  induction fields generalizing entries items with
  | nil =>
      cases folded
      rw [List.flatMap_nil, List.append_nil, collected]
  | cons field rest ih =>
      rw [List.foldlM_cons] at folded
      obtain ⟨between, added, folded⟩ := bind_eq_ok_iff.mp folded
      rw [List.flatMap_cons, ← List.append_assoc]
      exact ih (addField_keys collected added) folded

theorem build_keys (built : build fields = .ok lookup) :
    lookup.keys = (fields.flatMap FieldDescriptor.keys).eraseDups := by
  have collected : (OrderedMap.empty : OrderedMap String FieldEntry).keys = [].eraseDups := rfl
  exact foldlM_addField_keys collected (build_eq_ok_iff.mp built)

theorem build_keys_nodup (built : build fields = .ok lookup) : lookup.keys.Nodup := by
  have kept (entries : OrderedMap String FieldEntry) (field : FieldDescriptor)
      (next : OrderedMap String FieldEntry) (distinct : entries.keys.Nodup)
      (added : addField entries field = .ok next) : next.keys.Nodup := by
    obtain ⟨entry, name, referenceName, -, rfl⟩ := addField_eq_ok added
    exact OrderedMap.nodup_keys_set (OrderedMap.nodup_keys_set distinct)
  have start : (OrderedMap.empty : OrderedMap String FieldEntry).keys.Nodup := List.nodup_nil
  have distinct := foldlM_preserves kept start (build_eq_ok_iff.mp built)
  exact distinct

end Keys

theorem containsValue_iff {value : RawValue} :
    lookup.containsValue value = true ↔
      ∃ name, value = .text name ∧ lookup.find? name ≠ none := by
  cases value <;>
    simp [containsValue, RawValue.text?, OrderedMap.contains, find?, Option.isSome_iff_ne_none]

theorem owner?_eq_none_iff : owner? fields key = none ↔ ∀ field ∈ fields, key ∉ field.keys := by
  simp [owner?]

theorem owner?_of_last (held : key ∈ field.keys) (last : ∀ later ∈ after, key ∉ later.keys) :
    owner? (before ++ field :: after) key = some field := by
  rw [← List.singleton_append, owner?_append, owner?_append, owner?_eq_none_iff.mpr last,
    owner?_singleton, if_pos held]
  rfl

/-- A lookup can be built from any usable fields. In it a name leads to the last field that has it;
a link type has the entry of its own, whatever its type, and any other field the entry that its type
has. -/
theorem last_field_has_name (usable : ∀ field ∈ fields, field.Usable) :
    ∃ lookup, build fields = .ok lookup ∧
      (∀ name before field after, fields = before ++ field :: after →
        lowercase name ∈ field.keys → (∀ later ∈ after, lowercase name ∉ later.keys) →
          (field.isLinkType = true → lookup.find? name = some .linkType) ∧
          ∀ type, field.isLinkType = false → field.declaredType = .known type →
            lookup.find? name = some (.typed type)) ∧
      (∀ name, lookup.find? name = none ↔ ∀ field ∈ fields, lowercase name ∉ field.keys) ∧
      (∀ value, lookup.containsValue value = true ↔
        ∃ name, value = .text name ∧ lookup.find? name ≠ none) ∧
      lookup.keys = (fields.flatMap FieldDescriptor.keys).eraseDups ∧ lookup.keys.Nodup ∧
      lookup.size = lookup.keys.length := by
  obtain ⟨lookup, built, found⟩ := build_of_usable usable
  refine ⟨lookup, built, ?_, ?_, fun _ => containsValue_iff, build_keys built,
    build_keys_nodup built, by simp [size, OrderedMap.size, keys, OrderedMap.keys]⟩
  · rintro name before field after rfl held last
    rw [found, owner?_of_last held last, Option.bind_some, FieldDescriptor.entry]
    constructor
    · intro link
      rw [if_pos link]
      rfl
    · intro type typed declared
      rw [typed, declared]
      rfl
  · intro name
    rw [found, ← owner?_eq_none_iff]
    cases owned : owner? fields (lowercase name) with
    | none => exact iff_of_true rfl rfl
    | some field =>
        have member : field ∈ fields := List.mem_reverse.mp (List.mem_of_find?_eq_some owned)
        obtain ⟨entry, given⟩ := (usable field member).exists_entry
        exact iff_of_false (by simp [given, Except.toOption]) (Option.some_ne_none field)

namespace SharedNames

def title : FieldDescriptor where
  name := .text "Title"
  referenceName := .text "System.Title"
  declaredType := .known .string

/-- Is named by the reference name of the title. -/
def effort : FieldDescriptor where
  name := .text "SYSTEM.TITLE"
  referenceName := .text "Custom.Effort"
  declaredType := .known .integer

/-- Is named as the title, and of a type that is none. -/
def link : FieldDescriptor where
  name := .text "TITLE"
  referenceName := .text "System.Links.LinkType"
  declaredType := .unknown (.int 5) rfl

theorem usable : ∀ field ∈ [title, effort, link], field.Usable := by
  simp only [List.forall_mem_cons]
  exact ⟨⟨rfl, rfl, .inr ⟨_, rfl⟩⟩, ⟨rfl, rfl, .inr ⟨_, rfl⟩⟩, ⟨rfl, rfl, .inl rfl⟩, nofun⟩

end SharedNames

open SharedNames in
theorem title_lost_to_later_fields :
    (∀ field ∈ [title, effort, link], field.Usable) ∧
      ∃ lookup, build [title, effort, link] = .ok lookup ∧
        lookup.find? "Title" = some .linkType ∧
        lookup.find? "System.Title" = some (.typed .integer) ∧ lookup.find? "Effort" = none ∧
        lookup.containsValue (.text "CUSTOM.EFFORT") = true ∧
        lookup.keys = ["title", "system.title", "custom.effort", "system.links.linktype"] := by
  obtain ⟨lookup, built, leads, unknown, contains, keys, -, -⟩ := last_field_has_name usable
  have titled : lowercase "Title" ∈ link.keys := by decide +kernel
  have referenced : lowercase "System.Title" ∈ effort.keys := by decide +kernel
  have customized : lowercase "CUSTOM.EFFORT" ∈ effort.keys := by decide +kernel
  have kept : ∀ later ∈ [link], lowercase "System.Title" ∉ later.keys ∧
      lowercase "CUSTOM.EFFORT" ∉ later.keys := by decide +kernel
  have first := (leads "Title" [title, effort] link [] rfl titled nofun).1 rfl
  have second := (leads "System.Title" [title] effort [link] rfl referenced
    fun later member => (kept later member).1).2 .integer rfl rfl
  have third := (leads "CUSTOM.EFFORT" [title] effort [link] rfl customized
    fun later member => (kept later member).2).2 .integer rfl rfl
  refine ⟨usable, lookup, built, first, second, (unknown "Effort").mpr (by decide +kernel), ?_, ?_⟩
  · exact (contains _).mpr ⟨_, rfl, by simp [third]⟩
  · exact keys.trans (by decide +kernel)

end FieldLookup

end WorkItemQuery
