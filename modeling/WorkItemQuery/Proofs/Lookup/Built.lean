import WorkItemQuery.Lookup
import WorkItemQuery.Proofs.Except

/-!
# Built lookups

A lookup that was built from fields leads to the entries of the field types and to that of the link
type, and to no other.
-/

namespace WorkItemQuery

/-- An entry that some field can have. -/
def FieldEntry.IsBuiltin (entry : FieldEntry) : Prop :=
  entry = .linkType ∨ ∃ type, entry = .typed type

theorem FieldEntry.IsBuiltin.fieldType {entry : FieldEntry} (builtin : entry.IsBuiltin) :
    ∃ type, entry.rules.fieldType = .known type := by
  rcases builtin with rfl | ⟨type, rfl⟩
  · exact ⟨.string, rfl⟩
  · exact ⟨type, rfl⟩

theorem FieldDescriptor.entry_isBuiltin {field : FieldDescriptor} {entry : FieldEntry}
    (given : field.entry = .ok entry) : entry.IsBuiltin := by
  rw [FieldDescriptor.entry] at given
  split at given
  · cases given
    exact .inl rfl
  · cases declared : field.declaredType with
    | known type =>
        rw [declared] at given
        cases given
        exact .inr ⟨type, rfl⟩
    | unknown value unnamed =>
        rw [declared, DeclaredType.entry, DeclaredType.lookUp] at given
        split at given <;> cases given

namespace FieldLookup

theorem addField_eq_ok_iff {entries next : OrderedMap String FieldEntry}
    {field : FieldDescriptor} :
    addField entries field = .ok next ↔
      ∃ entry name referenceName, field.entry = .ok entry ∧ nameKey field.name = .ok name ∧
        nameKey field.referenceName = .ok referenceName ∧
        next = (entries.set name entry).set referenceName entry := by
  simp only [addField, bind_eq_ok_iff, Except.ok.injEq, exists_and_left, @eq_comm _ next]

theorem build_eq_ok_iff {fields : List FieldDescriptor} {lookup : FieldLookup} :
    build fields = .ok lookup ↔ fields.foldlM addField .empty = .ok lookup.entries := by
  rw [build, bind_eq_ok_iff]
  constructor
  · intro built
    obtain ⟨entries, folded, made⟩ := built
    cases made
    exact folded
  · intro folded
    exact ⟨lookup.entries, folded, rfl⟩

def OnlyBuiltin (entries : OrderedMap String FieldEntry) : Prop :=
  ∀ key entry, entries.get? key = some entry → entry.IsBuiltin

theorem OnlyBuiltin.set {entries : OrderedMap String FieldEntry} {entry : FieldEntry}
    (builtin : OnlyBuiltin entries) (added : entry.IsBuiltin) (key : String) :
    OnlyBuiltin (entries.set key entry) := by
  intro other found held
  rw [OrderedMap.get?_set] at held
  split at held
  · cases held
    exact added
  · exact builtin other found held

theorem OnlyBuiltin.addField {entries next : OrderedMap String FieldEntry}
    {field : FieldDescriptor} (builtin : OnlyBuiltin entries)
    (added : addField entries field = .ok next) : OnlyBuiltin next := by
  obtain ⟨entry, name, referenceName, given, -, -, rfl⟩ := addField_eq_ok_iff.mp added
  have fit : entry.IsBuiltin := field.entry_isBuiltin given
  exact (builtin.set fit name).set fit referenceName

theorem find?_isBuiltin {fields : List FieldDescriptor} {lookup : FieldLookup}
    (built : build fields = .ok lookup) {name : String} {entry : FieldEntry}
    (found : lookup.find? name = some entry) : entry.IsBuiltin := by
  have start : OnlyBuiltin .empty := by
    intro key entry held
    rw [OrderedMap.get?_empty] at held
    cases held
  have builtin : OnlyBuiltin lookup.entries :=
    foldlM_preserves (fun _ _ _ held added => OnlyBuiltin.addField held added) start
      (build_eq_ok_iff.mp built)
  exact builtin _ entry found

end FieldLookup

end WorkItemQuery
