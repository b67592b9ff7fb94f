/-
Levels of components: how late a component has to be worked on when everything it
points at comes first. Components of one level never point at each other.
-/

import TexAtlas.Graph.Basic

namespace TexAtlas.Graph

/-- The position of the last group that holds a name. -/
def ownerOf (components : List (List String)) (name : String) : Option Nat :=
  (components.zipIdx.foldl
    (fun owner entry => if entry.1.contains name then some entry.2 else owner) none)

/-- The level above everything the members point at outside their own group, given
the levels found so far. Levels not found yet count as the lowest. -/
def levelOf (graph : Graph) (components : List (List String)) (found : List Nat)
    (position : Nat) (members : List String) : Nat :=
  let owners := (members.flatMap (fun member => (graph.get? member).getD [])).filterMap
    (ownerOf components)
  ((owners.filter (· != position)).map (fun owner => found.getD owner 0 + 1)).foldl max 0

/-- The level of each component, in list order. -/
def levels (graph : Graph) (components : List (List String)) : List Nat :=
  components.zipIdx.foldl
    (fun found entry => found ++ [levelOf graph components found entry.2 entry.1]) []

/-- The number of levels, the empty ones below the highest included. -/
def depth (levels : List Nat) : Nat :=
  levels.foldl (fun depth level => max depth (level + 1)) 0

/-- Items grouped by level, the lowest level first, in list order within a level. An
item without a level and a level without an item are left out. -/
def groupByLevel {α : Type} (items : List α) (levels : List Nat) : List (List α) :=
  (List.range (depth levels)).map
    (fun level => ((items.zip levels).filter (fun entry => entry.2 == level)).map Prod.fst)

end TexAtlas.Graph
