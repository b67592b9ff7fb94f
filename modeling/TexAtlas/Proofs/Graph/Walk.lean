/-
The depth-first walk that finds strongly connected components. The open path of the walk
does not occur in its state; it is named here, and the invariant says how the waiting nodes
hang together with it: every waiting node reaches an older node of the path and is reached
from every older one. When a node closes, nothing above it on the stack has a way out, so
what is above it is one component.
-/

import TexAtlas.Graph.StrongComponents
import TexAtlas.Proofs.Graph.Reach

namespace TexAtlas.Graph

namespace Walk

/-- The number of an opened node. -/
def numberOf (walk : Walk) (node : String) : Nat :=
  (walk.number? node).getD 0

def Opened (walk : Walk) (node : String) : Prop :=
  ∃ number, walk.number? node = some number

theorem numberOf_of_number? {walk : Walk} {node : String} {number : Nat}
    (found : walk.number? node = some number) : walk.numberOf node = number := by
  rw [numberOf, found]
  rfl

/-- What holds between two steps of the walk, the path being the nodes that are open. -/
structure Sound (graph : Graph) (path : List String) (walk : Walk) : Prop where
  numbersBelow : ∀ node, walk.Opened node → walk.numberOf node < walk.next
  openedNodes : ∀ node, walk.Opened node → graph.contains node = true
  openedIff : ∀ node, walk.Opened node ↔ node ∈ walk.stack ∨ node ∈ walk.closed.flatten
  stackOrder : walk.stack.Pairwise (fun later earlier =>
    walk.numberOf earlier < walk.numberOf later)
  closedDistinct : walk.closed.flatten.Nodup
  closedNonempty : ∀ group ∈ walk.closed, group ≠ []
  closedApart : ∀ node ∈ walk.stack, node ∉ walk.closed.flatten
  closedExact : ∀ group ∈ walk.closed, ∀ node ∈ group, ∀ other,
    other ∈ group ↔ graph.Mutual node other
  closedTargets : ∀ source ∈ walk.closed.flatten, ∀ target, graph.Edge source target →
    target ∈ walk.closed.flatten
  closedOrder : walk.closed.Pairwise (fun earlier later => graph.NoEdge earlier later)
  pathWaits : ∀ node ∈ path, node ∈ walk.stack
  explored : ∀ source, walk.Opened source → source ∉ path → ∀ target,
    graph.Edge source target → walk.Opened target
  toPath : ∀ node ∈ walk.stack, ∃ anchor ∈ path,
    walk.numberOf anchor ≤ walk.numberOf node ∧ graph.Reaches node anchor
  fromPath : ∀ anchor ∈ path, ∀ node ∈ walk.stack,
    walk.numberOf anchor ≤ walk.numberOf node → graph.Reaches anchor node

theorem sound_initial (graph : Graph) : initial.Sound graph [] := by
  have nothing : ∀ node, ¬initial.Opened node := by
    rintro node ⟨number, found⟩
    cases found
  refine ⟨?_, ?_, ?_, List.Pairwise.nil, List.nodup_nil, ?_, ?_, ?_, ?_, List.Pairwise.nil,
    ?_, ?_, ?_, ?_⟩
  · intro node opened
    exact absurd opened (nothing node)
  · intro node opened
    exact absurd opened (nothing node)
  · intro node
    constructor
    · intro opened
      exact absurd opened (nothing node)
    · rintro (waiting | closed)
      · cases waiting
      · cases closed
  · intro group member
    cases member
  · intro node member
    cases member
  · intro group member
    cases member
  · intro source member
    cases member
  · intro node member
    cases member
  · intro source opened
    exact absurd opened (nothing source)
  · intro node member
    cases member
  · intro anchor member
    cases member

theorem Sound.stack_nodup {graph : Graph} {path : List String} {walk : Walk}
    (sound : walk.Sound graph path) : walk.stack.Nodup := by
  refine List.Pairwise.imp ?_ sound.stackOrder
  intro later earlier less same
  rw [same] at less
  exact Nat.lt_irrefl _ less

theorem Sound.opened_of_waiting {graph : Graph} {path : List String} {walk : Walk}
    (sound : walk.Sound graph path) {node : String} (waiting : node ∈ walk.stack) :
    walk.Opened node :=
  (sound.openedIff node).mpr (Or.inl waiting)

/-- A later walk: opened nodes keep their numbers, and newly opened ones wait on top. -/
structure Extends (before after : Walk) (fresh : List String) : Prop where
  stackIs : after.stack = fresh ++ before.stack
  keeps : ∀ node number, before.number? node = some number → after.number? node = some number
  nextGrows : before.next ≤ after.next

theorem Extends.refl (walk : Walk) : walk.Extends walk [] :=
  ⟨rfl, fun _ _ found => found, Nat.le_refl _⟩

theorem Extends.trans {first second third : Walk} {left right : List String}
    (earlier : first.Extends second left) (later : second.Extends third right) :
    first.Extends third (right ++ left) := by
  refine ⟨?_, ?_, Nat.le_trans earlier.nextGrows later.nextGrows⟩
  · rw [later.stackIs, earlier.stackIs, List.append_assoc]
  · intro node number found
    exact later.keeps node number (earlier.keeps node number found)

theorem Extends.opened {before after : Walk} {fresh : List String}
    (extends_ : before.Extends after fresh) {node : String} (opened : before.Opened node) :
    after.Opened node := by
  obtain ⟨number, found⟩ := opened
  exact ⟨number, extends_.keeps node number found⟩

theorem Extends.numberOf {before after : Walk} {fresh : List String}
    (extends_ : before.Extends after fresh) {node : String} (opened : before.Opened node) :
    after.numberOf node = before.numberOf node := by
  obtain ⟨number, found⟩ := opened
  rw [numberOf_of_number? found, numberOf_of_number? (extends_.keeps node number found)]

/-! ### Opening a node -/

variable {graph : Graph} {path : List String} {walk : Walk} {node : String}

theorem number?_openNode (walk : Walk) (node other : String) :
    (walk.openNode node).number? other =
      if node = other then some walk.next else walk.number? other :=
  NameMap.get?_insert walk.numbers node other walk.next

theorem next_openNode (unopened : walk.number? node = none) :
    (walk.openNode node).next = walk.next + 1 :=
  NameMap.size_insert_of_absent walk.numbers node walk.next unopened

theorem numberOf_openNode_self (walk : Walk) (node : String) :
    (walk.openNode node).numberOf node = walk.next := by
  rw [numberOf, number?_openNode, if_pos rfl]
  rfl

theorem numberOf_openNode_of_ne {other : String} (different : other ≠ node) :
    (walk.openNode node).numberOf other = walk.numberOf other := by
  rw [numberOf, number?_openNode, if_neg (fun same => different same.symm), numberOf]

theorem opened_openNode (walk : Walk) (node other : String) :
    (walk.openNode node).Opened other ↔ other = node ∨ walk.Opened other := by
  unfold Opened
  rw [number?_openNode]
  by_cases same : node = other
  · simp [same]
  · have different : other ≠ node := fun equal => same equal.symm
    simp [same, different]

theorem ne_of_opened {other : String} (unopened : walk.number? node = none)
    (opened : walk.Opened other) : other ≠ node := by
  rintro rfl
  obtain ⟨number, found⟩ := opened
  rw [unopened] at found
  cases found

/-- A node may be opened when every node of the path reaches it. -/
theorem Sound.openNode (sound : walk.Sound graph path) (isNode : graph.contains node = true)
    (unopened : walk.number? node = none)
    (reached : ∀ anchor ∈ path, graph.Reaches anchor node) :
    (walk.openNode node).Sound graph (node :: path) := by
  have waitsDifferent : ∀ other ∈ walk.stack, other ≠ node := fun other waiting =>
    ne_of_opened unopened (sound.opened_of_waiting waiting)
  have sameNumber : ∀ other ∈ walk.stack,
      (walk.openNode node).numberOf other = walk.numberOf other :=
    fun other waiting => numberOf_openNode_of_ne (waitsDifferent other waiting)
  have lessNext : ∀ other ∈ walk.stack, walk.numberOf other < walk.next := fun other waiting =>
    sound.numbersBelow other (sound.opened_of_waiting waiting)
  refine ⟨?_, ?_, ?_, ?_, sound.closedDistinct, sound.closedNonempty, ?_, sound.closedExact,
    sound.closedTargets, sound.closedOrder, ?_, ?_, ?_, ?_⟩
  · intro other opened
    rw [next_openNode unopened]
    rcases (opened_openNode walk node other).mp opened with rfl | old
    · rw [numberOf_openNode_self]
      exact Nat.lt_succ_self _
    · rw [numberOf_openNode_of_ne (ne_of_opened unopened old)]
      exact Nat.lt_succ_of_lt (sound.numbersBelow other old)
  · intro other opened
    rcases (opened_openNode walk node other).mp opened with rfl | old
    · exact isNode
    · exact sound.openedNodes other old
  · intro other
    change _ ↔ other ∈ node :: walk.stack ∨ other ∈ walk.closed.flatten
    rw [opened_openNode, sound.openedIff, List.mem_cons, or_assoc]
  · change List.Pairwise _ (node :: walk.stack)
    rw [List.pairwise_cons]
    constructor
    · intro other waiting
      rw [numberOf_openNode_self, sameNumber other waiting]
      exact lessNext other waiting
    · refine sound.stackOrder.imp_of_mem ?_
      intro later earlier laterWaits earlierWaits less
      rw [sameNumber later laterWaits, sameNumber earlier earlierWaits]
      exact less
  · intro other waiting closed
    rcases List.mem_cons.mp waiting with rfl | old
    · exact ne_of_opened unopened ((sound.openedIff other).mpr (Or.inr closed)) rfl
    · exact sound.closedApart other old closed
  · intro other member
    rcases List.mem_cons.mp member with rfl | old
    · exact List.mem_cons_self ..
    · exact List.mem_cons_of_mem node (sound.pathWaits other old)
  · intro source opened offPath target edge
    rw [List.mem_cons, not_or] at offPath
    rcases (opened_openNode walk node source).mp opened with same | old
    · exact absurd same offPath.1
    · exact (opened_openNode walk node target).mpr
        (Or.inr (sound.explored source old offPath.2 target edge))
  · intro other waiting
    rcases List.mem_cons.mp waiting with rfl | old
    · exact ⟨other, List.mem_cons_self .., Nat.le_refl _, .refl other⟩
    · obtain ⟨anchor, onPath, older, reaches⟩ := sound.toPath other old
      refine ⟨anchor, List.mem_cons_of_mem node onPath, ?_, reaches⟩
      rw [sameNumber anchor (sound.pathWaits anchor onPath), sameNumber other old]
      exact older
  · intro anchor onPath other waiting older
    rcases List.mem_cons.mp onPath with rfl | oldPath <;>
      rcases List.mem_cons.mp waiting with rfl | oldWaiting
    · exact .refl other
    · rw [numberOf_openNode_self, sameNumber other oldWaiting] at older
      exact absurd (lessNext other oldWaiting) (Nat.not_lt_of_le older)
    · exact reached anchor oldPath
    · rw [sameNumber anchor (sound.pathWaits anchor oldPath), sameNumber other oldWaiting] at older
      exact sound.fromPath anchor oldPath other oldWaiting older

theorem extends_openNode (unopened : walk.number? node = none) :
    walk.Extends (walk.openNode node) [node] := by
  refine ⟨rfl, ?_, ?_⟩
  · intro other number found
    have different : ¬node = other := by
      rintro rfl
      rw [unopened] at found
      cases found
    rw [number?_openNode, if_neg different]
    exact found
  · rw [next_openNode unopened]
    exact Nat.le_succ _

end Walk

end TexAtlas.Graph
