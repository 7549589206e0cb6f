import WorkItemQuery.Proofs.Check.Forms
import WorkItemQuery.Proofs.Lookup.LastWins

/-!
# The link type compared with fields

The link type compares with literals only, but that is checked only where it stands on the left. On
the right it is taken for any field of its type, so fields of type string compare with it in one
order and not in the other. Main statement: `link_type_compared_on_right_only`.
-/

namespace WorkItemQuery

namespace FieldEntry

/-- The comparisons between fields that are accepted, by the entries of the two fields. -/
inductive ComparesWith (written : Operator) : FieldEntry → FieldEntry → Prop where
  | sameType {type : FieldType} (legal : written ∈ type.rules.field) :
      ComparesWith written (.typed type) (.typed type)
  | linkType (ordered : written ∈ Operator.ordered) :
      ComparesWith written (.typed .string) .linkType

variable {left right : FieldEntry} {written : Operator}

theorem ComparesWith.ne_linkType (compares : left.ComparesWith written right) :
    left ≠ .linkType := by
  cases compares <;> nofun

theorem comparesWith_iff (builtin : left.IsBuiltin) (known : right.IsBuiltin) :
    left.ComparesWith written right ↔
      written ∈ left.rules.field ∧ right.rules.fieldType.same left.rules.fieldType = true := by
  constructor
  · intro compares
    cases compares with
    | sameType legal => exact ⟨legal, DeclaredType.same_known_iff.mpr rfl⟩
    | linkType ordered => exact ⟨ordered, rfl⟩
  · rintro ⟨legal, same⟩
    rcases builtin with rfl | ⟨type, rfl⟩
    · cases legal
    · have declared : right.rules.fieldType = .known type := DeclaredType.same_known_iff.mp same
      rcases known with rfl | ⟨other, rfl⟩
      · cases declared
        exact .linkType legal
      · cases declared
        exact .sameType legal

/-- The comparison is between a string field and the link type, whichever of them is on the left. -/
def StringBesideLinkType (left right : FieldEntry) : Prop :=
  (left = .typed .string ∧ right = .linkType) ∨ (left = .linkType ∧ right = .typed .string)

theorem comparesWith_symm_iff (builtin : left.IsBuiltin) (known : right.IsBuiltin) :
    (left.ComparesWith written right ↔ right.ComparesWith written left) ↔
      ¬ (left.StringBesideLinkType right ∧ written ∈ Operator.ordered) := by
  constructor
  · rintro symmetric ⟨⟨rfl, rfl⟩ | ⟨rfl, rfl⟩, ordered⟩
    · exact (symmetric.mp (.linkType ordered)).ne_linkType rfl
    · exact (symmetric.mpr (.linkType ordered)).ne_linkType rfl
  · intro apart
    constructor
    · intro compares
      cases compares with
      | sameType legal => exact .sameType legal
      | linkType ordered => exact absurd ⟨.inl ⟨rfl, rfl⟩, ordered⟩ apart
    · intro compares
      cases compares with
      | sameType legal => exact .sameType legal
      | linkType ordered => exact absurd ⟨.inr ⟨rfl, rfl⟩, ordered⟩ apart

end FieldEntry

theorem ComparesField.check_eq_nil_iff_comparesWith {fields : List FieldDescriptor}
    {lookup : FieldLookup} (built : FieldLookup.build fields = .ok lookup) (table : VariableTable)
    {condition : Tree} {name other : Token} {written : Operator} {left right : FieldEntry}
    (found : lookup.find? name.text = some left) (known : lookup.find? other.text = some right)
    (form : ComparesField condition name written other) :
    check ⟨lookup, table⟩ (.branch condition) = .ok [] ↔ left.ComparesWith written right := by
  rw [form.check_eq_nil_iff found known, FieldEntry.comparesWith_iff
    (FieldLookup.find?_isBuiltin built found) (FieldLookup.find?_isBuiltin built known)]

/-- A comparison between two known fields is accepted if both are of one type that allows it, or if
a string field is compared with the link type on the right. It is accepted the other way round too,
unless it is one between a string field and the link type. -/
theorem link_type_compared_on_right_only {fields : List FieldDescriptor}
    (usable : ∀ field ∈ fields, field.Usable) (table : VariableTable) :
    ∃ lookup, FieldLookup.build fields = .ok lookup ∧
      ∀ (name other : Token) (left right : FieldEntry) (written : Operator) (condition : Tree),
        lookup.find? name.text = some left → lookup.find? other.text = some right →
        ComparesField condition name written other →
          (check ⟨lookup, table⟩ (.branch condition) = .ok [] ↔
            left.ComparesWith written right) ∧
          (check ⟨lookup, table⟩ (.branch condition) = .ok [] → left ≠ .linkType) ∧
          ∀ reversed, ComparesField reversed other written name →
            ((check ⟨lookup, table⟩ (.branch condition) = .ok [] ↔
                check ⟨lookup, table⟩ (.branch reversed) = .ok []) ↔
              ¬ (left.StringBesideLinkType right ∧ written ∈ Operator.ordered)) := by
  obtain ⟨lookup, built, -⟩ := FieldLookup.build_of_usable usable
  refine ⟨lookup, built, ?_⟩
  intro name other left right written condition found known form
  have accepted := form.check_eq_nil_iff_comparesWith built table found known
  refine ⟨accepted, fun passed => (accepted.mp passed).ne_linkType, ?_⟩
  intro reversed turned
  rw [accepted, turned.check_eq_nil_iff_comparesWith built table known found]
  exact FieldEntry.comparesWith_symm_iff (FieldLookup.find?_isBuiltin built found)
    (FieldLookup.find?_isBuiltin built known)

namespace LinkType

def title : FieldDescriptor where
  name := .text "Title"
  referenceName := .text "System.Title"
  declaredType := .known .string

def linkType : FieldDescriptor where
  name := .text "Link Type"
  referenceName := .text "System.Links.LinkType"
  declaredType := .known .string

theorem usable : ∀ field ∈ [title, linkType], field.Usable := by
  simp only [List.forall_mem_cons]
  exact ⟨⟨rfl, rfl, .inr ⟨_, rfl⟩⟩, ⟨rfl, rfl, .inr ⟨_, rfl⟩⟩, nofun⟩

def lookup : FieldLookup where
  entries :=
    ⟨[("title", .typed .string), ("system.title", .typed .string), ("link type", .linkType),
      ("system.links.linktype", .linkType)]⟩

def scope : Scope :=
  ⟨lookup, VariableTable.predefined⟩

def identifier (name : String) : Token :=
  .startingAt 0 "IDENTIFIER" name

def operator (written : Operator) : Token :=
  .startingAt 12 written.terminal written.display

/-- The condition that compares two fields, in the given order. -/
def comparison (name : String) (written : Operator) (other : String) : Tree :=
  .ofComparison (identifier name) (operator written) (.field (.around "field" (identifier other)))

theorem comparison_compares (name : String) (written : Operator) (other : String) :
    ComparesField (comparison name written other) (identifier name) written (identifier other) :=
  ⟨_, Tree.ofComparison_compares rfl rfl rfl, Tree.around_names rfl _⟩

end LinkType

open LinkType in
/-- Both fields are known and one is the link type, and yet one order of the comparison passes. -/
theorem link_type_accepted_on_right :
    FieldLookup.build [title, linkType] = .ok lookup ∧
      lookup.find? "Title" = some (.typed .string) ∧ lookup.find? "Link Type" = some .linkType ∧
      ComparesField (comparison "Title" .equals "Link Type") (identifier "Title") .equals
        (identifier "Link Type") ∧
      check scope (.branch (comparison "Title" .equals "Link Type")) = .ok [] ∧
      ComparesField (comparison "Link Type" .equals "Title") (identifier "Link Type") .equals
        (identifier "Title") ∧
      check scope (.branch (comparison "Link Type" .equals "Title")) =
        .ok [.atToken (operator .equals) (Message.noOperation "Link Type" .field)] :=
  ⟨rfl, rfl, rfl, comparison_compares _ _ _, rfl, comparison_compares _ _ _, rfl⟩

open LinkType in
theorem title_below_link_type_accepted :
    (∀ field ∈ [title, linkType], field.Usable) ∧
      ∃ lookup, FieldLookup.build [title, linkType] = .ok lookup ∧
        check ⟨lookup, VariableTable.predefined⟩
          (.branch (comparison "Title" .lessThan "Link Type")) = .ok [] ∧
        check ⟨lookup, VariableTable.predefined⟩
          (.branch (comparison "Link Type" .lessThan "Title")) ≠ .ok [] := by
  obtain ⟨lookup, built, compared⟩ :=
    link_type_compared_on_right_only usable VariableTable.predefined
  cases built
  obtain ⟨accepted, -, -⟩ := compared (identifier "Title") (identifier "Link Type")
    (.typed .string) .linkType .lessThan _ rfl rfl (comparison_compares _ _ _)
  obtain ⟨-, refused, -⟩ := compared (identifier "Link Type") (identifier "Title")
    .linkType (.typed .string) .lessThan _ rfl rfl (comparison_compares _ _ _)
  exact ⟨usable, _, rfl, accepted.mpr (.linkType (by decide)), fun passed => refused passed rfl⟩

end WorkItemQuery
