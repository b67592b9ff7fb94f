/-
A clustering: groups of files that load each other, with the level at which each
group can be worked on.
-/

import TexAtlas.Dependency
import TexAtlas.Graph.Levels

namespace TexAtlas

structure Clustering where
  /-- The members of each group, by ascending name where a graph gave the groups. -/
  components : List (List Dependency)
  levels : List Nat

namespace Clustering

def size (clustering : Clustering) : Nat :=
  clustering.components.length

/-- The groups by level, the lowest level first. -/
def byLevel (clustering : Clustering) : List (List (List Dependency)) :=
  Graph.groupByLevel clustering.components clustering.levels

end Clustering

end TexAtlas
