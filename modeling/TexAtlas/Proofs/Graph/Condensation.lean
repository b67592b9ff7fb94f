/-
The depth-first walk comes to an end, whatever the graph. The bound on its depth plays no
part in that: the walk is described here without any, as a relation between the state before
and the state after, and what the bounded walk computes is the only outcome that the relation
allows. Every visit opens a node, and there are no more nodes than the bound.
-/

import TexAtlas.Proofs.Graph.StrongComponents

namespace TexAtlas.Graph

variable {graph : Graph}

/-! ### The walk without a bound -/

/-- A walk with the component of a node closed, where no node older than it was seen. -/
def closeIfOldest (walk : Walk) (node : String) (below : Nat) (after : Walk) : Walk :=
  if below = walk.next then after.closeNode node else after

/-- From one state to another by looking at targets in order: targets that were opened are
looked up, the others are visited to their end. -/
inductive Looks (graph : Graph) : List String → Nat × Walk → Nat × Walk → Prop where
  | done (state : Nat × Walk) : Looks graph [] state state
  | opened {target : String} {rest : List String} {low number : Nat} {walk : Walk}
      {final : Nat × Walk} : walk.number? target = some number →
      Looks graph rest (if walk.isWaiting target then min low number else low, walk) final →
        Looks graph (target :: rest) (low, walk) final
  | unopened {target : String} {rest : List String} {low below : Nat} {walk after : Walk}
      {final : Nat × Walk} : walk.number? target = none →
      Looks graph (graph.targets target) (walk.next, walk.openNode target) (below, after) →
      Looks graph rest
        (min low below, closeIfOldest walk target below after) final →
        Looks graph (target :: rest) (low, walk) final

/-- From one walk to another by visiting those roots that were not opened when their turn
comes. -/
inductive Completes (graph : Graph) : List String → Walk → Walk → Prop where
  | done (walk : Walk) : Completes graph [] walk walk
  | opened {root : String} {rest : List String} {number : Nat} {walk final : Walk} :
      walk.number? root = some number → Completes graph rest walk final →
        Completes graph (root :: rest) walk final
  | unopened {root : String} {rest : List String} {below : Nat} {walk after final : Walk} :
      walk.number? root = none →
      Looks graph (graph.targets root) (walk.next, walk.openNode root) (below, after) →
      Completes graph rest (closeIfOldest walk root below after) final →
        Completes graph (root :: rest) walk final

theorem Looks.unique {targets : List String} {state first second : Nat × Walk}
    (left : Looks graph targets state first) (right : Looks graph targets state second) :
    first = second := by
  induction left generalizing second with
  | done state =>
      cases right
      rfl
  | opened found _ ih =>
      cases right with
      | opened again looks =>
          rw [found] at again
          cases again
          exact ih looks
      | unopened closed _ _ =>
          rw [found] at closed
          cases closed
  | unopened closed _ _ below rest =>
      cases right with
      | opened found _ =>
          rw [closed] at found
          cases found
      | unopened _ visited looks =>
          cases below visited
          exact rest looks

theorem Completes.unique {roots : List String} {walk first second : Walk}
    (left : Completes graph roots walk first) (right : Completes graph roots walk second) :
    first = second := by
  induction left generalizing second with
  | done walk =>
      cases right
      rfl
  | opened found _ ih =>
      cases right with
      | opened _ completes => exact ih completes
      | unopened closed _ _ =>
          rw [found] at closed
          cases closed
  | unopened closed visited _ ih =>
      cases right with
      | opened found _ =>
          rw [closed] at found
          cases found
      | unopened _ again completes =>
          cases visited.unique again
          exact ih completes

/-! ### It ends -/

theorem unopened_closeIfOldest (graph : Graph) (walk : Walk) (node : String) (below : Nat)
    (after : Walk) :
    unopened graph (closeIfOldest walk node below after) = unopened graph after := by
  unfold closeIfOldest
  split <;> rfl

theorem visit_succ_eq (graph : Graph) (depth : Nat) (node : String) (walk : Walk) :
    visit graph (depth + 1) node walk =
      ((visitTargets graph depth node walk).1,
        closeIfOldest walk node (visitTargets graph depth node walk).1
          (visitTargets graph depth node walk).2) := by
  rw [visit_succ, closeIfOldest]
  split
  · rename_i lowIs
    rw [lowIs]
  · rfl

/-- Visits of a given depth, as far as they are needed, take the steps of the walk without a
bound. -/
def VisitsEnd (graph : Graph) (depth : Nat) : Prop :=
  ∀ (node : String) (walk : Walk), graph.contains node = true → walk.number? node = none →
    unopened graph walk ≤ depth → ∃ below after,
      visit graph depth node walk = (below, closeIfOldest walk node below after) ∧
      Looks graph (graph.targets node) (walk.next, walk.openNode node) (below, after) ∧
      unopened graph after ≤ unopened graph walk

theorem looks_of_visitsEnd {depth : Nat} (deeper : VisitsEnd graph depth) {targets : List String}
    (areNodes : ∀ target ∈ targets, graph.contains target = true) (state : Nat × Walk)
    (enough : unopened graph state.2 ≤ depth) :
    Looks graph targets state (targets.foldl (visitTarget graph depth) state) ∧
      unopened graph (targets.foldl (visitTarget graph depth) state).2 ≤
        unopened graph state.2 := by
  induction targets generalizing state with
  | nil => exact ⟨.done state, Nat.le_refl _⟩
  | cons target rest ih =>
      obtain ⟨low, walk⟩ := state
      have restNodes : ∀ other ∈ rest, graph.contains other = true :=
        fun other member => areNodes other (List.mem_cons_of_mem target member)
      rw [List.foldl_cons]
      cases found : walk.number? target with
      | some number =>
          rw [visitTarget_of_opened found]
          obtain ⟨looks, fewer⟩ :=
            ih restNodes (if walk.isWaiting target then min low number else low, walk) enough
          exact ⟨.opened found looks, fewer⟩
      | none =>
          rw [visitTarget_of_unopened found]
          obtain ⟨below, after, visitIs, visited, fewer⟩ :=
            deeper target walk (areNodes target (List.mem_cons_self ..)) found enough
          rw [visitIs]
          have closed := unopened_closeIfOldest graph walk target below after
          obtain ⟨looks, later⟩ := ih restNodes
            (min low below, closeIfOldest walk target below after)
            (closed.trans_le (Nat.le_trans fewer enough))
          refine ⟨.unopened found visited looks, ?_⟩
          simp only at later ⊢
          omega

theorem visitsEnd (graph : Graph) (depth : Nat) : VisitsEnd graph depth := by
  induction depth with
  | zero =>
      intro node walk isNode closed enough
      have fewer := unopened_openNode_lt isNode closed
      omega
  | succ depth ih =>
      intro node walk isNode closed enough
      have fewer := unopened_openNode_lt isNode closed
      have areNodes : ∀ target ∈ graph.targets node, graph.contains target = true :=
        fun _ edge => contains_of_edge edge
      obtain ⟨looks, later⟩ := looks_of_visitsEnd ih areNodes
        (walk.next, walk.openNode node) (by simp only; omega)
      refine ⟨_, _, visit_succ_eq graph depth node walk, looks, ?_⟩
      exact Nat.le_trans later (Nat.le_of_lt fewer)

theorem completes_foldl_visitRoot {roots : List String}
    (areNodes : ∀ root ∈ roots, graph.contains root = true) (walk : Walk) :
    Completes graph roots walk (roots.foldl (visitRoot graph) walk) := by
  induction roots generalizing walk with
  | nil => exact .done walk
  | cons root rest ih =>
      have later : ∀ next, Completes graph rest next (rest.foldl (visitRoot graph) next) :=
        ih (fun other member => areNodes other (List.mem_cons_of_mem root member))
      rw [List.foldl_cons, visitRoot]
      cases found : walk.number? root with
      | some number => exact .opened found (later walk)
      | none =>
          obtain ⟨below, after, visitIs, visited, _⟩ := visitsEnd graph graph.size root walk
            (areNodes root (List.mem_cons_self ..)) found (unopened_le_size graph walk)
          simp only [visitIs]
          exact .unopened found visited (later _)

/-! ### The components -/

/-- For every graph the walk ends, in one way only. The components that it closes are
nonempty and hold every node exactly once and nothing else; two nodes share a component just
when each is reached from the other; and an edge between two components leads to the one that
comes earlier. -/
theorem strongComponents_exact (graph : Graph) :
    (∃ final : Walk, final.closed = graph.strongComponents ∧
      ∀ walk, Completes graph graph.keys Walk.initial walk ↔ walk = final) ∧
    (∀ group ∈ graph.strongComponents, group ≠ []) ∧
    graph.strongComponents.flatten.Perm graph.keys ∧
    (∀ left right, graph.contains left = true → graph.contains right = true →
      ((∃ group ∈ graph.strongComponents, left ∈ group ∧ right ∈ group) ↔
        graph.Reaches left right ∧ graph.Reaches right left)) ∧
    (∀ (first second : Nat) (sources targets : List String),
      graph.strongComponents[first]? = some sources →
      graph.strongComponents[second]? = some targets → first ≠ second →
      ∀ source ∈ sources, ∀ target ∈ targets, graph.Edge source target → second < first) := by
  have condensed := strongComponents_isCondensation graph
  have completes := completes_foldl_visitRoot
    (fun root member => (NameMap.mem_keys_iff graph root).mp member) Walk.initial
  refine ⟨⟨_, rfl, ?_⟩, condensed.nonempty, ?_, ?_, ?_⟩
  · intro walk
    constructor
    · intro other
      exact other.unique completes
    · rintro rfl
      exact completes
  · apply (List.perm_ext_iff_of_nodup condensed.distinct graph.distinct).mpr
    intro node
    rw [condensed.covers]
    exact (NameMap.mem_keys_iff graph node).symm
  · intro left right leftNode _
    constructor
    · rintro ⟨group, isGroup, inLeft, inRight⟩
      exact (condensed.exact group isGroup left inLeft right).mp inRight
    · intro both
      obtain ⟨group, isGroup, inside⟩ := List.mem_flatten.mp ((condensed.covers left).mpr leftNode)
      exact ⟨group, isGroup, inside, (condensed.exact group isGroup left inside right).mpr both⟩
  · intro first second sources targets firstHeld secondHeld different source inSources target
      inTargets edge
    exact condensed.position_lt_of_edge firstHeld secondHeld different inSources inTargets edge

end TexAtlas.Graph
