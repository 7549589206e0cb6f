import WorkItemQuery.Binary64

/-!
# Raw values

What a metadata payload or a configuration file holds before its meaning is known. Two numbers are
the same when they denote one number, and a truth value counts as the number zero or one.
-/

namespace WorkItemQuery

inductive RawValue where
  | null
  | bool (value : Bool)
  | int (value : Int)
  | binary (value : Binary64)
  | text (value : String)
  | list (items : List RawValue)
  | object (members : List (String × RawValue))

namespace RawValue

instance : Inhabited RawValue := ⟨.null⟩

/-- The place on the line of the number that a value counts as. -/
def quantity? : RawValue → Option Quantity
  | .bool value => some (.ofInt (if value then 1 else 0))
  | .int value => some (.ofInt value)
  | .binary value => some value.quantity
  | _ => none

def text? : RawValue → Option String
  | .text value => some value
  | _ => none

def isNull : RawValue → Bool
  | .null => true
  | _ => false

/-- Lists and objects are compound: they cannot be keys. -/
def isCompound : RawValue → Bool
  | .list _ => true
  | .object _ => true
  | _ => false

/-- Whether two values that are not compound are the same. -/
def sameAtom (left right : RawValue) : Bool :=
  match left, right with
  | .null, .null => true
  | .text left, .text right => left == right
  | left, right =>
      match left.quantity?, right.quantity? with
      | some left, some right => left == right
      | _, _ => false

mutual

/-- Whether two values are the same; the order of an object's members does not matter. -/
def same : RawValue → RawValue → Bool
  | .list left, .list right => sameItems left right
  | .object left, .object right => left.length == right.length && sameMembers left right
  | left, right => sameAtom left right
termination_by structural left => left

def sameItems : List RawValue → List RawValue → Bool
  | [], [] => true
  | left :: lefts, right :: rights => left.same right && sameItems lefts rights
  | _, _ => false
termination_by structural lefts => lefts

def sameMembers : List (String × RawValue) → List (String × RawValue) → Bool
  | [], _ => true
  | (key, left) :: lefts, rights =>
      (match rights.lookup key with
        | some right => left.same right
        | none => false) && sameMembers lefts rights
termination_by structural lefts => lefts

end

instance : BEq RawValue := ⟨same⟩

end RawValue

end WorkItemQuery
