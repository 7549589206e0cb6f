import Mathlib.Data.List.Basic
import WorkItemQuery.Lookup
import WorkItemQuery.Proofs.Except

/-!
# Names that fields share

Every field is found under two keys, its name and its reference name in lower case. Where fields
share a key, the lookup leads from it to the entry of the last of them.
-/

namespace WorkItemQuery

open Text

namespace FieldDescriptor

variable {field : FieldDescriptor}

def keys (field : FieldDescriptor) : List String :=
  [field.name, field.referenceName].filterMap fun name => name.text?.map lowercase

/-- A field whose names are texts and whose type is known, unless it is the link type. -/
structure Usable (field : FieldDescriptor) : Prop where
  name : field.name.text?.isSome
  referenceName : field.referenceName.text?.isSome
  type : field.isLinkType = true ∨ ∃ type, field.declaredType = .known type

theorem exists_entry_of_typed
    (typed : field.isLinkType = true ∨ ∃ type, field.declaredType = .known type) :
    ∃ entry, field.entry = .ok entry := by
  rw [entry]
  split
  case isTrue _ => exact ⟨_, rfl⟩
  case isFalse other =>
    obtain ⟨type, declared⟩ := typed.resolve_left other
    rw [declared]
    exact ⟨_, rfl⟩

theorem Usable.exists_entry (usable : field.Usable) : ∃ entry, field.entry = .ok entry :=
  exists_entry_of_typed usable.type

/-- A usable field takes over its keys and leaves the other keys as they are. -/
theorem Usable.addField (usable : field.Usable) (entries : OrderedMap String FieldEntry) :
    ∃ next, FieldLookup.addField entries field = .ok next ∧
      ∀ key, next.get? key =
        if key ∈ field.keys then field.entry.toOption else entries.get? key := by
  obtain ⟨entry, given⟩ := usable.exists_entry
  obtain ⟨name, named⟩ := Option.isSome_iff_exists.mp usable.name
  obtain ⟨referenceName, referenced⟩ := Option.isSome_iff_exists.mp usable.referenceName
  have keys : field.keys = [lowercase name, lowercase referenceName] := by
    simp [FieldDescriptor.keys, named, referenced]
  refine ⟨(entries.set (lowercase name) entry).set (lowercase referenceName) entry, ?_, ?_⟩
  · rw [FieldLookup.addField, given, FieldLookup.nameKey, FieldLookup.nameKey, named, referenced]
    rfl
  · intro key
    rw [OrderedMap.get?_set, OrderedMap.get?_set, given, keys]
    by_cases second : lowercase referenceName = key
    · simp [Except.toOption, second]
    · by_cases first : lowercase name = key
      · simp [Except.toOption, first, second]
      · simp [first, second, Ne.symm first, Ne.symm second]

end FieldDescriptor

namespace FieldLookup

variable {fields others before after : List FieldDescriptor} {field : FieldDescriptor}
  {key : String}

/-- The last field that has a key. -/
def owner? (fields : List FieldDescriptor) (key : String) : Option FieldDescriptor :=
  fields.reverse.find? (key ∈ ·.keys)

theorem owner?_append (before after : List FieldDescriptor) (key : String) :
    owner? (before ++ after) key = (owner? after key).or (owner? before key) := by
  rw [owner?, List.reverse_append, List.find?_append, ← owner?, ← owner?]

theorem owner?_singleton (field : FieldDescriptor) (key : String) :
    owner? [field] key = if key ∈ field.keys then some field else none := by
  by_cases held : key ∈ field.keys <;> simp [owner?, held]

theorem owner?_isSome (held : ∃ field ∈ fields, key ∈ field.keys) : (owner? fields key).isSome := by
  obtain ⟨field, member, among⟩ := held
  exact List.find?_isSome.mpr ⟨field, List.mem_reverse.mpr member, decide_eq_true among⟩

theorem foldlM_addField (usable : ∀ field ∈ fields, field.Usable)
    (entries : OrderedMap String FieldEntry) :
    ∃ built, fields.foldlM addField entries = .ok built ∧
      ∀ key, built.get? key =
        (owner? fields key).elim (entries.get? key) (·.entry.toOption) := by
  -- for any entries to start from: a key that no field has keeps what it led to
  induction fields generalizing entries with
  | nil => exact ⟨entries, rfl, fun key => rfl⟩
  | cons field rest ih =>
      obtain ⟨first, later⟩ := List.forall_mem_cons.mp usable
      obtain ⟨next, added, leads⟩ := first.addField entries
      obtain ⟨built, folded, found⟩ := ih later next
      refine ⟨built, ?_, fun key => ?_⟩
      · rw [List.foldlM_cons, added]
        exact folded
      · rw [found, leads, ← List.singleton_append, owner?_append, owner?_singleton]
        cases owner? rest key with
        | some owner => rfl
        | none => by_cases held : key ∈ field.keys <;> simp [held]

theorem build_of_usable (usable : ∀ field ∈ fields, field.Usable) :
    ∃ lookup, build fields = .ok lookup ∧
      ∀ name, lookup.find? name = (owner? fields (lowercase name)).bind (·.entry.toOption) := by
  obtain ⟨entries, folded, found⟩ := foldlM_addField usable .empty
  refine ⟨⟨entries⟩, ?_, fun name => ?_⟩
  · rw [build, folded]
    rfl
  · rw [find?, found]
    cases owner? fields (lowercase name) <;> rfl

/-- Entries that lead to the same, save under some keys. -/
def AgreeOutside (keys : List String) (entries others : OrderedMap String FieldEntry) : Prop :=
  ∀ key, key ∉ keys → entries.get? key = others.get? key

theorem AgreeOutside.addField {keys : List String} {entries others : OrderedMap String FieldEntry}
    (agree : AgreeOutside keys entries others) (field : FieldDescriptor) :
    ExceptRel (AgreeOutside keys) (addField entries field) (addField others field) := by
  rw [FieldLookup.addField, FieldLookup.addField]
  cases field.entry with
  | error error => exact .error error
  | ok entry =>
      cases nameKey field.name with
      | error error => exact .error error
      | ok name =>
          cases nameKey field.referenceName with
          | error error => exact .error error
          | ok referenceName =>
              refine .ok fun key outside => ?_
              simp only [OrderedMap.get?_set, agree key outside]

/-- A usable field makes a difference only to what its own keys lead to, whatever the other fields
are. -/
theorem build_insert (usable : field.Usable) (before after : List FieldDescriptor) :
    ExceptRel
      (fun lookup other => ∀ name, lowercase name ∉ field.keys →
        lookup.find? name = other.find? name)
      (build (before ++ field :: after)) (build (before ++ after)) := by
  rw [build, build, List.foldlM_append, List.foldlM_append]
  cases before.foldlM addField .empty with
  | error error => exact .error error
  | ok entries =>
      obtain ⟨next, added, leads⟩ := usable.addField entries
      have outside : AgreeOutside field.keys next entries := fun key fresh => by
        rw [leads, if_neg fresh]
      have folded : ExceptRel (AgreeOutside field.keys) (after.foldlM FieldLookup.addField next)
          (after.foldlM FieldLookup.addField entries) :=
        ExceptRel.foldlM (fun _ _ later agree => agree.addField later) outside
      change ExceptRel _ ((field :: after).foldlM FieldLookup.addField entries >>= _) _
      rw [List.foldlM_cons, added]
      exact folded.bind fun _ _ agree => .ok fun name fresh => agree _ fresh

/-- Where no two fields share a key, their order does not matter. -/
theorem owner?_of_perm (reordered : fields.Perm others)
    (apart : fields.Pairwise fun left right => left.keys.Disjoint right.keys) (key : String) :
    owner? fields key = owner? others key := by
  refine find?_eq_of_perm
    ((List.reverse_perm fields).trans (reordered.trans (List.reverse_perm others).symm)) ?_
  refine List.pairwise_reverse.mpr (apart.imp fun disjoint both => ?_)
  exact disjoint (of_decide_eq_true both.2) (of_decide_eq_true both.1)

/-- A field whose keys all go to later fields makes no difference. -/
theorem owner?_of_overridden (overridden : ∀ key ∈ field.keys, ∃ later ∈ after, key ∈ later.keys)
    (key : String) : owner? (before ++ field :: after) key = owner? (before ++ after) key := by
  rw [← List.singleton_append, owner?_append, owner?_append, owner?_append, owner?_singleton]
  by_cases held : key ∈ field.keys
  · obtain ⟨owner, owned⟩ := Option.isSome_iff_exists.mp (owner?_isSome (overridden key held))
    rw [owned]
    rfl
  · rw [if_neg held, Option.or_none]

end FieldLookup

end WorkItemQuery
