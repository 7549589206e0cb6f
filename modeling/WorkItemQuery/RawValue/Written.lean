import WorkItemQuery.Binary64.Shortest
import WorkItemQuery.RawValue
import WorkItemQuery.Text.Quoted

/-!
# Written values

How a raw value is spelled inside a message. A text is quoted where the value is cited and inside
any list or object, and stands bare where the value is shown as text. A binary number is spelled by
its shortest decimal and always shows a point or an exponent.
-/

namespace WorkItemQuery

open Text

/-- The first digit, the others after a point, and an exponent with a sign and two digits at
least. -/
def scientific (digits : List Char) (exponent : Int) : List Char :=
  let fraction := digits.drop 1
  let power := (Nat.repr exponent.natAbs).toList
  digits.take 1 ++ (if fraction = [] then [] else '.' :: fraction) ++
    'e' :: (if exponent < 0 then '-' else '+') :: List.replicate (2 - power.length) '0' ++ power

/-- Digits with a point after the first `point` of them, and at least one digit on each side. -/
def positional (digits : List Char) (point : Int) : List Char :=
  let whole := digits.take point.toNat ++ List.replicate (point.toNat - digits.length) '0'
  let fraction := List.replicate (-point).toNat '0' ++ digits.drop point.toNat
  (if whole = [] then ['0'] else whole) ++ '.' :: (if fraction = [] then ['0'] else fraction)

/-- Numbers from `10 ^ -4` to below `10 ^ 16` have no exponent, and neither has zero. -/
def Decimal.written (decimal : Decimal) : List Char :=
  let digits := (Nat.repr decimal.digits).toList
  let point : Int := digits.length + decimal.exponent
  if point < -3 ∨ 16 < point then scientific digits (point - 1) else positional digits point

def signed (negative : Bool) (digits : List Char) : String :=
  String.ofList (if negative then '-' :: digits else digits)

def Binary64.written : Binary64 → String
  | .finite negative units => signed negative (Binary64.shortest units).written
  | .infinite negative => signed negative ['i', 'n', 'f']

namespace RawValue

def commaSeparated (parts : List String) : String :=
  ", ".intercalate parts

mutual

/-- The spelling of a value that a message cites. -/
def cited : RawValue → String
  | .null => "None"
  | .bool value => if value then "True" else "False"
  | .int value => signed (value < 0) (Nat.repr value.natAbs).toList
  | .binary value => value.written
  | .text value => quoted value
  | .list items => "[" ++ commaSeparated (citedItems items) ++ "]"
  | .object members => "\x7b" ++ commaSeparated (citedMembers members) ++ "\x7d"
termination_by structural value => value

def citedItems : List RawValue → List String
  | [] => []
  | item :: rest => item.cited :: citedItems rest
termination_by structural items => items

def citedMembers : List (String × RawValue) → List String
  | [] => []
  | (key, value) :: rest => (quoted key ++ ": " ++ value.cited) :: citedMembers rest
termination_by structural members => members

end

/-- The spelling of a value that a message shows as text. -/
def shown : RawValue → String
  | .text value => value
  | value => value.cited

def kindName : RawValue → String
  | .null => "NoneType"
  | .bool _ => "bool"
  | .int _ => "int"
  | .binary _ => "float"
  | .text _ => "str"
  | .list _ => "list"
  | .object _ => "dict"

def notIn (value : RawValue) (enumeration : String) : String :=
  value.cited ++ " is not a valid " ++ enumeration

end RawValue

end WorkItemQuery
