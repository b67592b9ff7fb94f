/-
The groups that the walk closes are the strongly connected components of the graph, each
once, every group after all groups it points at. A visit is described by what it leaves
waiting above the old stack and by the least number that can be seen from there.
-/

import TexAtlas.Proofs.Graph.Closing

namespace TexAtlas.Graph

variable {graph : Graph} {path : List String} {walk : Walk} {node : String}

/-! ### Nodes still to be opened -/

/-- The number of nodes that were not opened. -/
def unopened (graph : Graph) (walk : Walk) : Nat :=
  graph.keys.countP (fun node => (walk.number? node).isNone)

theorem unopened_le_of_extends {after : Walk} {fresh : List String}
    (grown : walk.Extends after fresh) : unopened graph after ≤ unopened graph walk := by
  refine List.countP_mono_left ?_
  intro other _ closed
  cases found : walk.number? other with
  | none => rfl
  | some number =>
      rw [grown.keeps other number found] at closed
      cases closed

theorem unopened_openNode_lt (isNode : graph.contains node = true)
    (closed : walk.number? node = none) :
    unopened graph (walk.openNode node) < unopened graph walk := by
  obtain ⟨before, behind, keysEq⟩ :=
    List.append_of_mem ((NameMap.mem_keys_iff graph node).mpr isNode)
  have fewer : ∀ names : List String,
      names.countP (fun other => ((walk.openNode node).number? other).isNone) ≤
        names.countP (fun other => (walk.number? other).isNone) := by
    intro names
    refine List.countP_mono_left ?_
    intro other _ stillClosed
    rw [Walk.number?_openNode] at stillClosed
    split at stillClosed
    · cases stillClosed
    · exact stillClosed
  have first := fewer before
  have second := fewer behind
  have opened : (walk.openNode node).number? node = some walk.next := by
    rw [Walk.number?_openNode, if_pos rfl]
  unfold unopened
  rw [keysEq, List.countP_append, List.countP_append, List.countP_cons, List.countP_cons,
    closed, opened]
  simp only [Option.isNone_some, Option.isNone_none, if_true, Bool.false_eq_true, if_false]
  omega

/-! ### Looking at the targets of a node -/

/-- One target of a node looked at, together with the least number seen so far. -/
def visitTarget (graph : Graph) (depth : Nat) (state : Nat × Walk) (target : String) :
    Nat × Walk :=
  match state.2.number? target with
  | none =>
    (min state.1 (visit graph depth target state.2).1, (visit graph depth target state.2).2)
  | some seen =>
    if state.2.isWaiting target then (min state.1 seen, state.2) else (state.1, state.2)

theorem visitTarget_of_unopened {depth : Nat} {state : Nat × Walk} {target : String}
    (closed : state.2.number? target = none) :
    visitTarget graph depth state target =
      (min state.1 (visit graph depth target state.2).1, (visit graph depth target state.2).2) := by
  rw [visitTarget, closed]

theorem visitTarget_of_opened {depth : Nat} {state : Nat × Walk} {target : String} {number : Nat}
    (found : state.2.number? target = some number) :
    visitTarget graph depth state target =
      (if state.2.isWaiting target then min state.1 number else state.1, state.2) := by
  rw [visitTarget, found]
  by_cases waiting : state.2.isWaiting target = true
  · simp only [if_pos waiting]
  · simp only [if_neg waiting]

/-- The state after all targets of a node were looked at. -/
def visitTargets (graph : Graph) (depth : Nat) (node : String) (walk : Walk) : Nat × Walk :=
  (graph.targets node).foldl (visitTarget graph depth) (walk.next, walk.openNode node)

theorem visit_succ (graph : Graph) (depth : Nat) (node : String) (walk : Walk) :
    visit graph (depth + 1) node walk =
      if (visitTargets graph depth node walk).1 = walk.next then
        (walk.next, (visitTargets graph depth node walk).2.closeNode node)
      else visitTargets graph depth node walk := by
  rw [visit]
  rfl

/-- The outcome of a visit below a node: what is newly waiting, and a number that no edge
from there to the old stack undercuts. -/
structure Visited (graph : Graph) (path : List String) (walk : Walk) (node : String)
    (low : Nat) (after : Walk) (fresh : List String) : Prop where
  grown : walk.Extends after fresh
  sound : after.Sound graph path
  opened : after.Opened node
  lowBounds : ∀ source ∈ fresh, ∀ target ∈ walk.stack, graph.Edge source target →
    low ≤ walk.numberOf target
  lowMet : walk.next ≤ low ∨
    ∃ anchor ∈ walk.stack, walk.numberOf anchor = low ∧ graph.Reaches node anchor

/-- A visit in progress: some targets of the node were looked at. -/
structure Scanned (graph : Graph) (path : List String) (walk : Walk) (node : String)
    (seen : List String) (low : Nat) (current : Walk) (fresh : List String) : Prop where
  grown : (walk.openNode node).Extends current fresh
  sound : current.Sound graph (node :: path)
  lowAtMost : low ≤ walk.next
  lowMet : ∃ anchor ∈ node :: walk.stack,
    (walk.openNode node).numberOf anchor = low ∧ graph.Reaches node anchor
  seenOpened : ∀ target ∈ seen, current.Opened target
  freshBounds : ∀ source ∈ fresh, ∀ target ∈ walk.stack, graph.Edge source target →
    low ≤ walk.numberOf target
  seenBounds : ∀ target ∈ seen, target ∈ walk.stack → low ≤ walk.numberOf target

namespace Scanned

variable {seen fresh : List String} {low : Nat} {current : Walk}

theorem stackIs (scanned : Scanned graph path walk node seen low current fresh) :
    current.stack = fresh ++ node :: walk.stack :=
  scanned.grown.stackIs

theorem numberOf_node (scanned : Scanned graph path walk node seen low current fresh) :
    current.numberOf node = walk.next := by
  have opened := (Walk.opened_openNode walk node node).mpr (Or.inl rfl)
  rw [scanned.grown.numberOf opened, Walk.numberOf_openNode_self]

theorem next_lt (scanned : Scanned graph path walk node seen low current fresh)
    (closed : walk.number? node = none) : walk.next < current.next := by
  have more := scanned.grown.nextGrows
  rw [Walk.next_openNode closed] at more
  exact more

theorem numberOf_old (scanned : Scanned graph path walk node seen low current fresh)
    (sound : walk.Sound graph path) (closed : walk.number? node = none) {other : String}
    (waiting : other ∈ walk.stack) : current.numberOf other = walk.numberOf other := by
  have opened := sound.opened_of_waiting waiting
  rw [scanned.grown.numberOf ((Walk.opened_openNode walk node other).mpr (Or.inr opened)),
    Walk.numberOf_openNode_of_ne (Walk.ne_of_opened closed opened)]

theorem old_of_numberOf_lt (scanned : Scanned graph path walk node seen low current fresh)
    {other : String} (waiting : other ∈ current.stack) (less : current.numberOf other < low) :
    other ∈ node :: walk.stack := by
  rw [scanned.stackIs] at waiting
  rcases List.mem_append.mp waiting with inFresh | old
  · have order := scanned.sound.stackOrder
    rw [scanned.stackIs, List.pairwise_append] at order
    have younger := order.2.2 other inFresh node (List.mem_cons_self ..)
    rw [scanned.numberOf_node] at younger
    have bound := scanned.lowAtMost
    omega
  · exact old

theorem lowMet_min (scanned : Scanned graph path walk node seen low current fresh)
    (sound : (walk.openNode node).Sound graph (node :: path))
    {number : Nat} (met : low ≤ number ∨ ∃ anchor ∈ current.stack,
      current.numberOf anchor = number ∧ graph.Reaches node anchor) :
    ∃ anchor ∈ node :: walk.stack,
      (walk.openNode node).numberOf anchor = min low number ∧ graph.Reaches node anchor := by
  by_cases order : low ≤ number
  · rw [Nat.min_eq_left order]
    exact scanned.lowMet
  · obtain ⟨anchor, waiting, numberIs, reaches⟩ := met.resolve_left order
    have less : current.numberOf anchor < low := by omega
    have old := scanned.old_of_numberOf_lt waiting less
    refine ⟨anchor, old, ?_, reaches⟩
    have opened : (walk.openNode node).Opened anchor :=
      sound.opened_of_waiting old
    rw [← scanned.grown.numberOf opened, numberIs]
    omega

theorem start (opening : (walk.openNode node).Sound graph (node :: path)) :
    Scanned graph path walk node [] walk.next (walk.openNode node) [] := by
  refine ⟨.refl _, opening, Nat.le_refl _, ?_, ?_, ?_, ?_⟩
  · exact ⟨node, List.mem_cons_self .., Walk.numberOf_openNode_self walk node, .refl node⟩
  · intro target member
    cases member
  · intro source member
    cases member
  · intro target member
    cases member

/-- A target that was opened before lowers the least number if it waits. -/
theorem look (scanned : Scanned graph path walk node seen low current fresh)
    (sound : walk.Sound graph path) (closed : walk.number? node = none)
    (opening : (walk.openNode node).Sound graph (node :: path))
    {target : String} (edge : graph.Edge node target) {number : Nat}
    (found : current.number? target = some number) :
    Scanned graph path walk node (seen ++ [target])
      (if current.isWaiting target then min low number else low) current fresh := by
  have opened : ∀ other ∈ seen ++ [target], current.Opened other := by
    intro other member
    rcases List.mem_append.mp member with old | new
    · exact scanned.seenOpened other old
    · rw [List.mem_singleton.mp new]
      exact ⟨number, found⟩
  have numberIs : current.numberOf target = number := Walk.numberOf_of_number? found
  split
  · rename_i waiting
    have waits : target ∈ current.stack := List.contains_iff_mem.mp waiting
    refine ⟨scanned.grown, scanned.sound, ?_, ?_, opened, ?_, ?_⟩
    · exact Nat.le_trans (Nat.min_le_left low number) scanned.lowAtMost
    · exact scanned.lowMet_min opening (Or.inr ⟨target, waits, numberIs, .single edge⟩)
    · intro source inFresh other old way
      exact Nat.le_trans (Nat.min_le_left low number)
        (scanned.freshBounds source inFresh other old way)
    · intro other member old
      rcases List.mem_append.mp member with before | new
      · exact Nat.le_trans (Nat.min_le_left low number) (scanned.seenBounds other before old)
      · rw [List.mem_singleton.mp new] at old ⊢
        rw [← scanned.numberOf_old sound closed old, numberIs]
        exact Nat.min_le_right low number
  · rename_i notWaiting
    refine ⟨scanned.grown, scanned.sound, scanned.lowAtMost, scanned.lowMet, opened,
      scanned.freshBounds, ?_⟩
    intro other member old
    rcases List.mem_append.mp member with before | new
    · exact scanned.seenBounds other before old
    · rw [List.mem_singleton.mp new] at old
      have waits : target ∈ current.stack := by
        rw [scanned.stackIs]
        exact List.mem_append_right fresh (List.mem_cons_of_mem node old)
      exact absurd (List.contains_iff_mem.mpr waits) notWaiting

/-- A target that was not opened before is visited with the node on the path. -/
theorem descend (scanned : Scanned graph path walk node seen low current fresh)
    (sound : walk.Sound graph path) (closed : walk.number? node = none)
    (opening : (walk.openNode node).Sound graph (node :: path))
    {target : String} (edge : graph.Edge node target)
    (unopened : current.number? target = none) {below : Nat} {after : Walk}
    {more : List String}
    (visited : Visited graph (node :: path) current target below after more) :
    Scanned graph path walk node (seen ++ [target]) (min low below) after (more ++ fresh) := by
  have waitsStill : ∀ other ∈ walk.stack, other ∈ current.stack := by
    intro other old
    rw [scanned.stackIs]
    exact List.mem_append_right fresh (List.mem_cons_of_mem node old)
  refine ⟨scanned.grown.trans visited.grown, visited.sound, ?_, ?_, ?_, ?_, ?_⟩
  · exact Nat.le_trans (Nat.min_le_left low below) scanned.lowAtMost
  · refine scanned.lowMet_min opening ?_
    rcases visited.lowMet with none_ | ⟨anchor, waiting, numberIs, reaches⟩
    · have later := scanned.next_lt closed
      have bound := scanned.lowAtMost
      exact Or.inl (by omega)
    · exact Or.inr ⟨anchor, waiting, numberIs, .step edge reaches⟩
  · intro other member
    rcases List.mem_append.mp member with old | new
    · exact visited.grown.opened (scanned.seenOpened other old)
    · rw [List.mem_singleton.mp new]
      exact visited.opened
  · intro source member other old way
    rcases List.mem_append.mp member with inMore | inFresh
    · rw [← scanned.numberOf_old sound closed old]
      exact Nat.le_trans (Nat.min_le_right low below)
        (visited.lowBounds source inMore other (waitsStill other old) way)
    · exact Nat.le_trans (Nat.min_le_left low below)
        (scanned.freshBounds source inFresh other old way)
  · intro other member old
    rcases List.mem_append.mp member with before | new
    · exact Nat.le_trans (Nat.min_le_left low below) (scanned.seenBounds other before old)
    · rw [List.mem_singleton.mp new] at old
      obtain ⟨number, found⟩ := scanned.sound.opened_of_waiting (waitsStill target old)
      rw [unopened] at found
      cases found

/-- Once all targets were looked at, the node leaves the path: it closes its component, or
it stays on the stack below an older node. -/
theorem finish (scanned : Scanned graph path walk node seen low current fresh)
    (sound : walk.Sound graph path) (closed : walk.number? node = none)
    (allSeen : ∀ target, graph.Edge node target → target ∈ seen) :
    ∃ more, Visited graph path walk node low
      (if low = walk.next then current.closeNode node else current) more := by
  have explored : ∀ target, graph.Edge node target → current.Opened target :=
    fun target edge => scanned.seenOpened target (allSeen target edge)
  have opened : current.Opened node :=
    scanned.grown.opened ((Walk.opened_openNode walk node node).mpr (Or.inl rfl))
  have grownWhole := (Walk.extends_openNode closed).trans scanned.grown
  have bounds : ∀ source ∈ fresh ++ [node], ∀ target ∈ walk.stack, graph.Edge source target →
      low ≤ walk.numberOf target := by
    intro source above target old edge
    rcases List.mem_append.mp above with inFresh | atNode
    · exact scanned.freshBounds source inFresh target old edge
    · rw [List.mem_singleton.mp atNode] at edge
      exact scanned.seenBounds target (allSeen target edge) old
  split
  · rename_i lowIs
    have noWayOut : graph.NoEdge (fresh ++ [node]) walk.stack := by
      intro source above target old edge
      have atLeast := bounds source above target old edge
      have less := sound.numbersBelow target (sound.opened_of_waiting old)
      omega
    have closing := scanned.sound.closeNode scanned.stackIs sound.pathWaits explored noWayOut
    have absent : node ∉ fresh := by
      have distinct := scanned.sound.stack_nodup
      rw [scanned.stackIs, List.nodup_append] at distinct
      intro inFresh
      exact distinct.2.2 node inFresh node (List.mem_cons_self ..) rfl
    have afterIs := Walk.closeNode_eq scanned.stackIs absent
    refine ⟨[], ?_, closing, ?_, ?_, Or.inl (Nat.le_of_eq lowIs.symm)⟩
    · rw [afterIs]
      exact ⟨rfl, grownWhole.keeps, grownWhole.nextGrows⟩
    · rw [afterIs]
      exact opened
    · intro source member
      cases member
  · rename_i lowIsNot
    have less : low < walk.next := Nat.lt_of_le_of_ne scanned.lowAtMost lowIsNot
    obtain ⟨anchor, atOrBelow, numberIs, reaches⟩ := scanned.lowMet
    have old : anchor ∈ walk.stack := by
      rcases List.mem_cons.mp atOrBelow with same | old
      · rw [same, Walk.numberOf_openNode_self] at numberIs
        omega
      · exact old
    have anchorWaits : anchor ∈ current.stack := by
      rw [scanned.stackIs]
      exact List.mem_append_right fresh (List.mem_cons_of_mem node old)
    have anchorNumber : walk.numberOf anchor = low := by
      have different := Walk.ne_of_opened closed (sound.opened_of_waiting old)
      rw [← numberIs, Walk.numberOf_openNode_of_ne different]
    have older : current.numberOf anchor < current.numberOf node := by
      rw [scanned.numberOf_old sound closed old, scanned.numberOf_node, anchorNumber]
      exact less
    exact ⟨fresh ++ [node], grownWhole, scanned.sound.leave explored anchorWaits older reaches,
      opened, bounds, Or.inr ⟨anchor, old, anchorNumber, reaches⟩⟩

end Scanned

/-! ### The whole walk -/

/-- Visits of a given depth, as far as they are needed, leave a sound walk. -/
def VisitsSound (graph : Graph) (depth : Nat) : Prop :=
  ∀ (path : List String) (walk : Walk) (node : String), walk.Sound graph path →
    graph.contains node = true → walk.number? node = none →
    (∀ anchor ∈ path, graph.Reaches anchor node) → unopened graph walk ≤ depth →
      ∃ fresh, Visited graph path walk node (visit graph depth node walk).1
        (visit graph depth node walk).2 fresh

theorem Scanned.targets {depth : Nat} (deeper : VisitsSound graph depth)
    (sound : walk.Sound graph path) (closed : walk.number? node = none)
    (opening : (walk.openNode node).Sound graph (node :: path))
    (reached : ∀ anchor ∈ path, graph.Reaches anchor node)
    (enough : unopened graph (walk.openNode node) ≤ depth)
    (todo : List String) (state : Nat × Walk) {seen fresh : List String}
    (edges : ∀ target ∈ todo, graph.Edge node target)
    (scanned : Scanned graph path walk node seen state.1 state.2 fresh) :
    ∃ more, Scanned graph path walk node (seen ++ todo)
      (todo.foldl (visitTarget graph depth) state).1
      (todo.foldl (visitTarget graph depth) state).2 more := by
  induction todo generalizing seen fresh state with
  | nil =>
      rw [List.append_nil]
      exact ⟨fresh, scanned⟩
  | cons target rest ih =>
      have edge := edges target (List.mem_cons_self ..)
      have restEdges : ∀ other ∈ rest, graph.Edge node other :=
        fun other member => edges other (List.mem_cons_of_mem target member)
      rw [List.foldl_cons, List.append_cons]
      cases found : state.2.number? target with
      | none =>
          have anchors : ∀ anchor ∈ node :: path, graph.Reaches anchor target := by
            intro anchor onPath
            rcases List.mem_cons.mp onPath with rfl | below
            · exact .single edge
            · exact (reached anchor below).trans (.single edge)
          obtain ⟨more, visited⟩ := deeper (node :: path) state.2 target scanned.sound
            (contains_of_edge edge) found anchors
            (Nat.le_trans (unopened_le_of_extends scanned.grown) enough)
          have next := scanned.descend sound closed opening edge found visited
          rw [visitTarget_of_unopened found]
          exact ih _ restEdges next
      | some number =>
          have next := scanned.look sound closed opening edge found
          rw [visitTarget_of_opened found]
          exact ih _ restEdges next

theorem visitsSound (graph : Graph) (depth : Nat) : VisitsSound graph depth := by
  induction depth with
  | zero =>
      intro path walk node _ isNode closed _ enough
      have some_unopened := unopened_openNode_lt isNode closed
      omega
  | succ depth ih =>
      intro path walk node sound isNode closed reached enough
      have opening := sound.openNode isNode closed reached
      have fewer := unopened_openNode_lt isNode closed
      have started : Scanned graph path walk node []
          (walk.next, walk.openNode node).1 (walk.next, walk.openNode node).2 [] :=
        Scanned.start opening
      obtain ⟨fresh, scanned⟩ := Scanned.targets ih sound closed opening reached (by omega)
        (graph.targets node) (walk.next, walk.openNode node) (fun target member => member) started
      rw [List.nil_append] at scanned
      obtain ⟨more, visited⟩ := scanned.finish sound closed (fun target edge => edge)
      refine ⟨more, ?_⟩
      rw [visit_succ]
      unfold visitTargets
      split at visited
      · rename_i lowIs
        rw [lowIs] at visited
        rw [if_pos lowIs]
        exact visited
      · rename_i lowIsNot
        rw [if_neg lowIsNot]
        exact visited

theorem unopened_le_size (graph : Graph) (walk : Walk) : unopened graph walk ≤ graph.size := by
  have bound := List.countP_le_length (p := fun node => (walk.number? node).isNone)
    (l := graph.keys)
  rwa [NameMap.keys, List.length_map] at bound

theorem visitRoot_sound (sound : walk.Sound graph []) (isNode : graph.contains node = true) :
    (visitRoot graph walk node).Sound graph [] ∧ (visitRoot graph walk node).Opened node ∧
      ∀ other, walk.Opened other → (visitRoot graph walk node).Opened other := by
  unfold visitRoot
  cases found : walk.number? node with
  | some number => exact ⟨sound, ⟨number, found⟩, fun _ opened => opened⟩
  | none =>
      obtain ⟨fresh, visited⟩ := visitsSound graph graph.size [] walk node sound isNode found
        (fun anchor impossible => by cases impossible) (unopened_le_size graph walk)
      exact ⟨visited.sound, visited.opened, fun _ opened => visited.grown.opened opened⟩

theorem visitRoots_sound {roots : List String}
    (nodes : ∀ root ∈ roots, graph.contains root = true) (sound : walk.Sound graph []) :
    (roots.foldl (visitRoot graph) walk).Sound graph [] ∧
      ∀ other, walk.Opened other ∨ other ∈ roots →
        (roots.foldl (visitRoot graph) walk).Opened other := by
  induction roots generalizing walk with
  | nil =>
      refine ⟨sound, ?_⟩
      rintro other (opened | impossible)
      · exact opened
      · cases impossible
  | cons root rest ih =>
      obtain ⟨next, rootOpened, keeps⟩ :=
        visitRoot_sound sound (nodes root (List.mem_cons_self ..))
      obtain ⟨final, opened⟩ :=
        ih (fun other member => nodes other (List.mem_cons_of_mem root member)) next
      refine ⟨final, ?_⟩
      rintro other (before | member)
      · exact opened other (Or.inl (keeps other before))
      · rcases List.mem_cons.mp member with rfl | later
        · exact opened other (Or.inl rootOpened)
        · exact opened other (Or.inr later)

/-- Groups that are the strongly connected components of a graph, in an order in which
no group points at a later one. -/
structure IsCondensation (graph : Graph) (groups : List (List String)) : Prop where
  covers : ∀ node, node ∈ groups.flatten ↔ graph.contains node = true
  distinct : groups.flatten.Nodup
  nonempty : ∀ group ∈ groups, group ≠ []
  exact : ∀ group ∈ groups, ∀ node ∈ group, ∀ other,
    other ∈ group ↔ graph.Mutual node other
  order : groups.Pairwise (fun earlier later => graph.NoEdge earlier later)

/-- An edge between two groups leads to the one that comes earlier. -/
theorem IsCondensation.position_lt_of_edge {groups : List (List String)}
    (condensed : graph.IsCondensation groups) {first second : Nat}
    {sources targets : List String} (firstHeld : groups[first]? = some sources)
    (secondHeld : groups[second]? = some targets) (different : first ≠ second)
    {source target : String} (inSources : source ∈ sources) (inTargets : target ∈ targets)
    (edge : graph.Edge source target) : second < first := by
  rcases Nat.lt_or_gt_of_ne different with less | more
  · obtain ⟨firstWithin, firstIs⟩ := List.getElem?_eq_some_iff.mp firstHeld
    obtain ⟨secondWithin, secondIs⟩ := List.getElem?_eq_some_iff.mp secondHeld
    have noEdge := List.pairwise_iff_getElem.mp condensed.order first second
      firstWithin secondWithin less
    rw [firstIs, secondIs] at noEdge
    exact absurd edge (noEdge source inSources target inTargets)
  · exact more

theorem strongComponents_isCondensation (graph : Graph) :
    graph.IsCondensation graph.strongComponents := by
  have nodes : ∀ root ∈ graph.keys, graph.contains root = true :=
    fun root member => (NameMap.mem_keys_iff graph root).mp member
  obtain ⟨sound, opened⟩ := visitRoots_sound nodes (Walk.sound_initial graph)
  have emptyStack : (graph.keys.foldl (visitRoot graph) Walk.initial).stack = [] := by
    rw [List.eq_nil_iff_forall_not_mem]
    intro node waiting
    obtain ⟨anchor, onPath, _⟩ := sound.toPath node waiting
    cases onPath
  refine ⟨?_, sound.closedDistinct, sound.closedNonempty, sound.closedExact,
    sound.closedOrder⟩
  intro node
  constructor
  · intro closed
    exact sound.openedNodes node ((sound.openedIff node).mpr (Or.inr closed))
  · intro isNode
    have nodeOpened := opened node (Or.inr ((NameMap.mem_keys_iff graph node).mpr isNode))
    rcases (sound.openedIff node).mp nodeOpened with waiting | closed
    · rw [emptyStack] at waiting
      cases waiting
    · exact closed

end TexAtlas.Graph
