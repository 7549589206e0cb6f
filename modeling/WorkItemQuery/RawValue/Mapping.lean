import WorkItemQuery.OrderedMap
import WorkItemQuery.RawValue

/-!
# Raw mappings

Raw values under raw keys, as a payload or a configured table comes. A compound value is no key.
-/

namespace WorkItemQuery

abbrev RawMapping := OrderedMap RawValue RawValue

/-- The mapping that pairs make up, unless one of the keys is compound. -/
def RawMapping.ofPairs? (pairs : List (RawValue × RawValue)) : Option RawMapping :=
  if pairs.any (·.1.isCompound) then none else some (OrderedMap.ofPairs pairs)

end WorkItemQuery
