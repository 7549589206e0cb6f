/-!
# Log records

The steps that the library tells the log about.
-/

namespace WorkItemQuery

inductive LogRecord where
  /-- A condition without a usable operator or operand, by the name of its field. -/
  | skippedCondition (name : String)
  | builtLookup (keys : Nat)
  | rebuildingLookup (fields : Nat)
  | fetching (generation : Nat)
  deriving DecidableEq

def LogRecord.text : LogRecord → String
  | .skippedCondition name => "skipping incomplete condition on " ++ name
  | .builtLookup keys => "built field lookup with " ++ Nat.repr keys ++ " keys"
  | .rebuildingLookup fields => "rebuilding field lookup for " ++ Nat.repr fields ++ " fields"
  | .fetching generation => "fetching value (generation " ++ Nat.repr generation ++ ")"

/-- A result with the records written on the way to it. -/
structure Logged (α : Type) where
  records : List LogRecord
  result : α

end WorkItemQuery
