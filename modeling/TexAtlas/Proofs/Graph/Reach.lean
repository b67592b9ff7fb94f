/-
Reachability in a graph. Paths compose, stay inside every set that edges do not leave,
and two nodes are mutual when each is reached from the other.
-/

import TexAtlas.Graph.Basic
import TexAtlas.Proofs.Names

namespace TexAtlas.Graph

variable {graph : Graph}

theorem contains_of_edge {source target : String} (edge : graph.Edge source target) :
    graph.contains target = true :=
  (List.mem_filter.mp edge).2

theorem contains_source_of_edge {source target : String} (edge : graph.Edge source target) :
    graph.contains source = true := by
  rw [NameMap.contains_iff]
  cases found : graph.get? source with
  | none =>
      have member := (List.mem_filter.mp edge).1
      rw [found] at member
      cases member
  | some targets => exact ⟨targets, rfl⟩

theorem Reaches.single {source target : String} (edge : graph.Edge source target) :
    graph.Reaches source target :=
  .step edge (.refl target)

theorem Reaches.trans {first second third : String} (left : graph.Reaches first second)
    (right : graph.Reaches second third) : graph.Reaches first third := by
  induction left with
  | refl => exact right
  | step edge _ ih => exact .step edge (ih right)

theorem Reaches.stays {inside : String → Prop}
    (closed : ∀ source target, inside source → graph.Edge source target → inside target)
    {source target : String} (path : graph.Reaches source target) (start : inside source) :
    inside target := by
  induction path with
  | refl => exact start
  | step edge _ ih => exact ih (closed _ _ start edge)

/-- No edge leads from one list of nodes to another. -/
def NoEdge (graph : Graph) (sources targets : List String) : Prop :=
  ∀ source ∈ sources, ∀ target ∈ targets, ¬graph.Edge source target

/-- Each of two nodes is reached from the other. -/
def Mutual (graph : Graph) (left right : String) : Prop :=
  graph.Reaches left right ∧ graph.Reaches right left

theorem Mutual.refl (node : String) : graph.Mutual node node :=
  ⟨.refl node, .refl node⟩

theorem Mutual.symm {left right : String} (both : graph.Mutual left right) :
    graph.Mutual right left :=
  ⟨both.2, both.1⟩

theorem Mutual.trans {first second third : String} (left : graph.Mutual first second)
    (right : graph.Mutual second third) : graph.Mutual first third :=
  ⟨left.1.trans right.1, right.2.trans left.2⟩

end TexAtlas.Graph
