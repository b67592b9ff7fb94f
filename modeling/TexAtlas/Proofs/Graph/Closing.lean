/-
What becomes of a node once all its targets were looked at. Either an older waiting node is
reached from it and it stays on the stack, or nothing above it leads to an older node and
all of that is closed as one component.
-/

import TexAtlas.Proofs.Graph.Walk

namespace TexAtlas.Graph.Walk

variable {graph : Graph} {path : List String} {walk : Walk} {node : String}

/-- A node that reaches an older waiting node leaves the path but stays on the stack. -/
theorem Sound.leave (sound : walk.Sound graph (node :: path))
    (explored : ∀ target, graph.Edge node target → walk.Opened target)
    {anchor : String} (anchorWaits : anchor ∈ walk.stack)
    (older : walk.numberOf anchor < walk.numberOf node)
    (reaches : graph.Reaches node anchor) : walk.Sound graph path := by
  refine { sound with pathWaits := ?_, explored := ?_, toPath := ?_, fromPath := ?_ }
  · intro other onPath
    exact sound.pathWaits other (List.mem_cons_of_mem node onPath)
  · intro source opened offPath target edge
    by_cases same : source = node
    · exact explored target (same ▸ edge)
    · refine sound.explored source opened ?_ target edge
      rw [List.mem_cons, not_or]
      exact ⟨same, offPath⟩
  · intro other waiting
    obtain ⟨first, onPath, firstOlder, toFirst⟩ := sound.toPath other waiting
    rcases List.mem_cons.mp onPath with same | onRest
    · -- The way to the node goes on to the anchor, and from there to an older node of the path.
      obtain ⟨second, secondOnPath, secondOlder, toSecond⟩ := sound.toPath anchor anchorWaits
      rcases List.mem_cons.mp secondOnPath with again | secondOnRest
      · rw [again] at secondOlder
        exact absurd older (Nat.not_lt_of_le secondOlder)
      · rw [same] at firstOlder toFirst
        exact ⟨second, secondOnRest, by omega, (toFirst.trans reaches).trans toSecond⟩
    · exact ⟨first, onRest, firstOlder, toFirst⟩
  · intro first onPath other waiting
    exact sound.fromPath first (List.mem_cons_of_mem node onPath) other waiting

section Close

variable {fresh rest : List String}

theorem takeWhile_stack (stackIs : walk.stack = fresh ++ node :: rest)
    (absent : node ∉ fresh) : walk.stack.takeWhile (· != node) = fresh := by
  have all : ∀ other ∈ fresh, (other != node) = true := by
    intro other member
    rw [bne_iff_ne]
    exact fun same => absent (same ▸ member)
  rw [stackIs, List.takeWhile_append_of_pos all, List.takeWhile_cons]
  simp

theorem dropWhile_stack (stackIs : walk.stack = fresh ++ node :: rest)
    (absent : node ∉ fresh) : (walk.stack.dropWhile (· != node)).drop 1 = rest := by
  have all : ∀ other ∈ fresh, (other != node) = true := by
    intro other member
    rw [bne_iff_ne]
    exact fun same => absent (same ▸ member)
  rw [stackIs, List.dropWhile_append_of_pos all, List.dropWhile_cons]
  simp

theorem closeNode_eq (stackIs : walk.stack = fresh ++ node :: rest) (absent : node ∉ fresh) :
    walk.closeNode node =
      { walk with stack := rest, closed := walk.closed ++ [fresh ++ [node]] } := by
  unfold closeNode
  rw [takeWhile_stack stackIs absent, dropWhile_stack stackIs absent]

theorem mem_stack_iff (stackIs : walk.stack = fresh ++ node :: rest) (item : String) :
    item ∈ walk.stack ↔ item ∈ fresh ++ [node] ∨ item ∈ rest := by
  rw [stackIs, List.append_cons, List.mem_append]

theorem Sound.above_apart (sound : walk.Sound graph (node :: path))
    (stackIs : walk.stack = fresh ++ node :: rest) {item : String}
    (above : item ∈ fresh ++ [node]) : item ∉ rest ∧ item ∉ walk.closed.flatten := by
  have distinct := sound.stack_nodup
  rw [stackIs, List.append_cons] at distinct
  constructor
  · intro below
    exact (List.nodup_append.mp distinct).2.2 item above item below rfl
  · exact sound.closedApart item ((mem_stack_iff stackIs item).mpr (Or.inl above))

theorem Sound.node_le_above (sound : walk.Sound graph (node :: path))
    (stackIs : walk.stack = fresh ++ node :: rest) {item : String}
    (above : item ∈ fresh ++ [node]) : walk.numberOf node ≤ walk.numberOf item := by
  have order := sound.stackOrder
  rw [stackIs, List.pairwise_append] at order
  rcases List.mem_append.mp above with inFresh | atNode
  · exact Nat.le_of_lt (order.2.2 item inFresh node (List.mem_cons_self ..))
  · rw [List.mem_singleton.mp atNode]

/-- Edges from above a node without a way out stay above it or lead to closed nodes. -/
theorem Sound.target_of_above (sound : walk.Sound graph (node :: path))
    (stackIs : walk.stack = fresh ++ node :: rest) (pathBelow : ∀ item ∈ path, item ∈ rest)
    (explored : ∀ target, graph.Edge node target → walk.Opened target)
    (noWayOut : graph.NoEdge (fresh ++ [node]) rest) {source target : String}
    (inside : source ∈ fresh ++ [node] ∨ source ∈ walk.closed.flatten)
    (edge : graph.Edge source target) :
    target ∈ fresh ++ [node] ∨ target ∈ walk.closed.flatten := by
  rcases inside with above | closed
  · have opened : walk.Opened target := by
      by_cases same : source = node
      · exact explored target (same ▸ edge)
      · have waits := (mem_stack_iff stackIs source).mpr (Or.inl above)
        refine sound.explored source (sound.opened_of_waiting waits) ?_ target edge
        intro onPath
        rcases List.mem_cons.mp onPath with equal | onRest
        · exact same equal
        · exact (sound.above_apart stackIs above).1 (pathBelow source onRest)
    rcases (sound.openedIff target).mp opened with waiting | closed
    · rcases (mem_stack_iff stackIs target).mp waiting with here | below
      · exact Or.inl here
      · exact absurd edge (noWayOut source above target below)
    · exact Or.inr closed
  · exact Or.inr (sound.closedTargets source closed target edge)

theorem Sound.mutual_node_of_above (sound : walk.Sound graph (node :: path))
    (stackIs : walk.stack = fresh ++ node :: rest) (pathBelow : ∀ item ∈ path, item ∈ rest)
    (explored : ∀ target, graph.Edge node target → walk.Opened target)
    (noWayOut : graph.NoEdge (fresh ++ [node]) rest) {item : String}
    (above : item ∈ fresh ++ [node]) : graph.Mutual node item := by
  have waits := (mem_stack_iff stackIs item).mpr (Or.inl above)
  constructor
  · exact sound.fromPath node (List.mem_cons_self ..) item waits
      (sound.node_le_above stackIs above)
  · obtain ⟨anchor, onPath, _, reaches⟩ := sound.toPath item waits
    rcases List.mem_cons.mp onPath with same | onRest
    · exact same ▸ reaches
    · have below := pathBelow anchor onRest
      have stays := reaches.stays
        (fun _ _ inside edge =>
          sound.target_of_above stackIs pathBelow explored noWayOut inside edge)
        (Or.inl above)
      rcases stays with here | closed
      · exact absurd below (sound.above_apart stackIs here).1
      · have anchorWaits := (mem_stack_iff stackIs anchor).mpr (Or.inr below)
        exact absurd closed (sound.closedApart anchor anchorWaits)

/-- What is above a node without a way out is one component. -/
theorem Sound.mem_above_iff (sound : walk.Sound graph (node :: path))
    (stackIs : walk.stack = fresh ++ node :: rest) (pathBelow : ∀ item ∈ path, item ∈ rest)
    (explored : ∀ target, graph.Edge node target → walk.Opened target)
    (noWayOut : graph.NoEdge (fresh ++ [node]) rest) {member : String}
    (above : member ∈ fresh ++ [node]) (other : String) :
    other ∈ fresh ++ [node] ↔ graph.Mutual member other := by
  have together : ∀ item ∈ fresh ++ [node], graph.Mutual node item := fun item here =>
    sound.mutual_node_of_above stackIs pathBelow explored noWayOut here
  constructor
  · intro otherAbove
    exact (together member above).symm.trans (together other otherAbove)
  · rintro ⟨forth, back⟩
    have stays := forth.stays
      (fun _ _ inside edge =>
        sound.target_of_above stackIs pathBelow explored noWayOut inside edge)
      (Or.inl above)
    rcases stays with here | closed
    · exact here
    · have memberClosed := back.stays
        (fun source target inside edge => sound.closedTargets source inside target edge) closed
      exact absurd memberClosed (sound.above_apart stackIs above).2

/-- A node without a way out closes together with everything above it. -/
theorem Sound.closeNode (sound : walk.Sound graph (node :: path))
    (stackIs : walk.stack = fresh ++ node :: rest) (pathBelow : ∀ item ∈ path, item ∈ rest)
    (explored : ∀ target, graph.Edge node target → walk.Opened target)
    (noWayOut : graph.NoEdge (fresh ++ [node]) rest) :
    (walk.closeNode node).Sound graph path := by
  have absent : node ∉ fresh := by
    have distinct := sound.stack_nodup
    rw [stackIs, List.nodup_append] at distinct
    intro inFresh
    exact distinct.2.2 node inFresh node (List.mem_cons_self ..) rfl
  have below : ∀ item ∈ rest, item ∈ walk.stack := fun item member =>
    (mem_stack_iff stackIs item).mpr (Or.inr member)
  have flattenIs : (walk.closed ++ [fresh ++ [node]]).flatten =
      walk.closed.flatten ++ (fresh ++ [node]) := by simp
  have flattenIff (item : String) : item ∈ (walk.closed ++ [fresh ++ [node]]).flatten ↔
      item ∈ walk.closed.flatten ∨ item ∈ fresh ++ [node] := by
    rw [flattenIs]
    exact List.mem_append
  rw [closeNode_eq stackIs absent]
  refine ⟨sound.numbersBelow, sound.openedNodes, ?_, ?_, ?_, ?_, ?_, ?_, ?_, ?_, pathBelow,
    ?_, ?_, ?_⟩
  · intro item
    refine (sound.openedIff item).trans ?_
    rw [mem_stack_iff stackIs, flattenIff]
    constructor
    · rintro ((above | under) | closed)
      · exact Or.inr (Or.inr above)
      · exact Or.inl under
      · exact Or.inr (Or.inl closed)
    · rintro (under | closed | above)
      · exact Or.inl (Or.inr under)
      · exact Or.inr closed
      · exact Or.inl (Or.inl above)
  · have order := sound.stackOrder
    rw [stackIs, List.pairwise_append, List.pairwise_cons] at order
    exact order.2.1.2
  · rw [flattenIs, List.nodup_append]
    have distinct := sound.stack_nodup
    rw [stackIs, List.append_cons] at distinct
    refine ⟨sound.closedDistinct, (List.nodup_append.mp distinct).1, ?_⟩
    rintro closed inClosed item above rfl
    exact (sound.above_apart stackIs above).2 inClosed
  · intro group member
    rcases List.mem_append.mp member with old | new
    · exact sound.closedNonempty group old
    · rw [List.mem_singleton.mp new]
      exact List.append_ne_nil_of_right_ne_nil _ (List.cons_ne_nil _ _)
  · intro item under
    rw [flattenIff, not_or]
    exact ⟨sound.closedApart item (below item under),
      fun above => (sound.above_apart stackIs above).1 under⟩
  · intro group member
    rcases List.mem_append.mp member with old | new
    · exact sound.closedExact group old
    · rw [List.mem_singleton.mp new]
      intro item above other
      exact sound.mem_above_iff stackIs pathBelow explored noWayOut above other
  · intro source inside target edge
    rw [flattenIff, or_comm] at inside ⊢
    exact sound.target_of_above stackIs pathBelow explored noWayOut inside edge
  · rw [List.pairwise_append]
    refine ⟨sound.closedOrder, List.pairwise_singleton .., ?_⟩
    intro earlier old later new source inEarlier target inLater edge
    rw [List.mem_singleton.mp new] at inLater
    have closed := sound.closedTargets source
      (List.mem_flatten.mpr ⟨earlier, old, inEarlier⟩) target edge
    exact (sound.above_apart stackIs inLater).2 closed
  · intro source opened offPath target edge
    by_cases same : source = node
    · exact explored target (same ▸ edge)
    · refine sound.explored source opened ?_ target edge
      rw [List.mem_cons, not_or]
      exact ⟨same, offPath⟩
  · intro item under
    obtain ⟨anchor, onPath, older, reaches⟩ := sound.toPath item (below item under)
    rcases List.mem_cons.mp onPath with same | onRest
    · -- The node is younger than everything below it.
      have order := sound.stackOrder
      rw [stackIs, List.pairwise_append, List.pairwise_cons] at order
      rw [same] at older
      exact absurd (order.2.1.1 item under) (Nat.not_lt_of_le older)
    · exact ⟨anchor, onRest, older, reaches⟩
  · intro anchor onPath item under
    exact sound.fromPath anchor (List.mem_cons_of_mem node onPath) item (below item under)

end Close

end TexAtlas.Graph.Walk
