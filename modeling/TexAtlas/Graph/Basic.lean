/-
Directed graphs over names. A graph maps every node to its targets in a fixed order;
targets that are no nodes are not part of the graph.
-/

import TexAtlas.Name.Map

namespace TexAtlas

abbrev Graph := NameMap (List String)

namespace Graph

/-- The nodes a node points at, in order and with repetitions. -/
def targets (graph : Graph) (node : String) : List String :=
  ((graph.get? node).getD []).filter graph.contains

/-- There is an edge between two nodes of the graph. -/
def Edge (graph : Graph) (source target : String) : Prop :=
  target ∈ graph.targets source

/-- Reachability along any number of edges. -/
inductive Reaches (graph : Graph) : String → String → Prop where
  | refl (node : String) : Reaches graph node node
  | step {source middle target : String} :
      graph.Edge source middle → Reaches graph middle target → Reaches graph source target

end Graph

end TexAtlas
