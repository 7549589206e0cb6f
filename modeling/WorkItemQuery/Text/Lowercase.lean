import WorkItemQuery.Text.Lowercase.Context
import WorkItemQuery.Text.Lowercase.Rows

/-!
# Lowercase text

Names are compared by their full Unicode lowercase form. Three rules make it up: the case rows, the
capital I with a dot above, which lowers to `i` and a combining dot, and the capital sigma, which
takes its final form at the end of a word.
-/

namespace WorkItemQuery.Text

/-- The lowercase form of a character whose form is one character and does not depend on the
characters around it. -/
def simpleLower (c : Char) : Char :=
  match caseRows.find? (·.covers c.toNat) with
  | some row => Char.ofNat (row.lower c.toNat)
  | none => c

def isCaseIgnorable (c : Char) : Bool :=
  inRanges caseIgnorable c

def isCased (c : Char) : Bool :=
  inRanges cased c

/-- Whether the nearest character that is not passed over has case. -/
def nextHasCase (characters : List Char) : Bool :=
  match characters.dropWhile isCaseIgnorable with
  | [] => false
  | c :: _ => isCased c

/-- The lowercase form of one character, between the text `before` it, nearest first, and the text
`after` it. A sigma is final when a letter precedes it and none follows. -/
def lowerAt (before : List Char) (c : Char) (after : List Char) : List Char :=
  if c = 'Σ' then
    [if nextHasCase before && !nextHasCase after then 'ς' else 'σ']
  else if c = 'İ' then
    ['i', '\u0307']
  else
    [simpleLower c]

def lowerFrom (before : List Char) : List Char → List Char
  | [] => []
  | c :: rest => lowerAt before c rest ++ lowerFrom (c :: before) rest

def lowercase (text : String) : String :=
  String.ofList (lowerFrom [] text.toList)

@[simp] theorem toList_lowercase (text : String) :
    (lowercase text).toList = lowerFrom [] text.toList := by
  simp [lowercase]

end WorkItemQuery.Text
