/-
Sets of characters, described by ranges and by other sets. A description is short even
where its set is large; the intervals of the set are found when they are asked for.
-/

import TexAtlas.Text.Intervals

namespace TexAtlas.Text

/-- How a set is made: by its ranges, of two sets together, or of one set without
another. -/
inductive CharacterSet
  | listed (ranges : List (Nat × Nat))
  | joined (left right : CharacterSet)
  | without (set removed : CharacterSet)

namespace CharacterSet

def intervals : CharacterSet → Intervals
  | listed ranges => Intervals.ofRanges ranges
  | joined left right => Intervals.union left.intervals right.intervals
  | without set removed => Intervals.both set.intervals (Intervals.complement removed.intervals)

def anyOf (sets : List CharacterSet) : CharacterSet :=
  sets.foldr joined (listed [])

/-- The members of two sets at once. -/
def shared (left right : CharacterSet) : CharacterSet :=
  without left (without left right)

/-- The characters outside a set. -/
def others (set : CharacterSet) : CharacterSet :=
  without (listed [(0, 0xd7ff), (0xe000, 0x10ffff)]) set

end CharacterSet

/-- A set of characters and the names by which it is known. -/
structure NamedSet where
  names : List String
  members : CharacterSet

def findNamed? (sets : List NamedSet) (name : String) : Option CharacterSet :=
  (sets.find? (fun set => set.names.contains name)).map NamedSet.members

end TexAtlas.Text
