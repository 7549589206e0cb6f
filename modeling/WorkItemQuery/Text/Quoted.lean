import WorkItemQuery.Text.Unprintable

/-!
# Quoted text

The spelling of a text inside a message: in single quotes, unless it holds a single quote and no
double quote. The quote in use and the backslash take a backslash, and an unprintable character is
spelled by its code.
-/

namespace WorkItemQuery.Text

def isUnprintable (c : Char) : Bool :=
  inRanges unprintable c

/-- The last `width` hexadecimal digits of a number. -/
def hexDigits (width number : Nat) : List Char :=
  (List.range width).reverse.map fun place => Nat.digitChar (number / Nat.pow 16 place % 16)

/-- The spelling of a character by the shortest form that holds its code. -/
def codeEscape (c : Char) : List Char :=
  if c.toNat < 0x100 then '\\' :: 'x' :: hexDigits 2 c.toNat
  else if c.toNat < 0x10000 then '\\' :: 'u' :: hexDigits 4 c.toNat
  else '\\' :: 'U' :: hexDigits 8 c.toNat

def escapeChar (quote c : Char) : List Char :=
  if c = quote ∨ c = '\\' then ['\\', c]
  else if c = '\n' then ['\\', 'n']
  else if c = '\r' then ['\\', 'r']
  else if c = '\t' then ['\\', 't']
  else if isUnprintable c then codeEscape c
  else [c]

def quoteFor (characters : List Char) : Char :=
  if '\'' ∈ characters ∧ '"' ∉ characters then '"' else '\''

def quoteChars (characters : List Char) : List Char :=
  let quote := quoteFor characters
  quote :: (characters.flatMap (escapeChar quote) ++ [quote])

def quoted (text : String) : String :=
  String.ofList (quoteChars text.toList)

end WorkItemQuery.Text
