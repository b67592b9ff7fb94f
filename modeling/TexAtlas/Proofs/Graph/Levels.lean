/-
Levels of the components of a graph. The components come in an order in which nothing
points at a later one, so the level of everything a component points at is known before
its own: an edge between two components leads to a strictly lower level, and a component
above the lowest level points at one that stands just below it.
-/

import TexAtlas.Graph.Levels
import TexAtlas.Proofs.Graph.StrongComponents

namespace TexAtlas.Graph

/-! ### Answers that depend on the earlier answers -/

theorem exists_of_foldl_append {α β : Type} (answer : List β → α → β) (questions : List α)
    (given : List β) :
    ∃ more, questions.foldl (fun found question => found ++ [answer found question]) given =
        given ++ more ∧
      more.length = questions.length ∧
      ∀ (position : Nat) (question : α), questions[position]? = some question →
        more[position]? = some (answer (given ++ more.take position) question) := by
  induction questions generalizing given with
  | nil => exact ⟨[], by simp, rfl, by simp⟩
  | cons first rest ih =>
      obtain ⟨more, foldIs, lengthIs, answers⟩ := ih (given ++ [answer given first])
      refine ⟨answer given first :: more, ?_, ?_, ?_⟩
      · rw [List.foldl_cons, foldIs, List.append_assoc]
        rfl
      · rw [List.length_cons, lengthIs, List.length_cons]
      · intro position question asked
        cases position with
        | zero =>
            cases asked
            simp
        | succ position =>
            rw [List.getElem?_cons_succ] at asked ⊢
            rw [answers position question asked, List.take_succ_cons, List.append_assoc]
            rfl

variable {graph : Graph} {groups : List (List String)}

theorem levels_length (graph : Graph) (groups : List (List String)) :
    (levels graph groups).length = groups.length := by
  obtain ⟨more, foldIs, lengthIs, _⟩ := exists_of_foldl_append
    (fun found (entry : List String × Nat) => levelOf graph groups found entry.2 entry.1)
    groups.zipIdx []
  rw [levels, foldIs, List.nil_append, lengthIs, List.length_zipIdx]

theorem levels_getElem? {position : Nat} {group : List String}
    (held : groups[position]? = some group) :
    (levels graph groups)[position]? =
      some (levelOf graph groups ((levels graph groups).take position) position group) := by
  obtain ⟨more, foldIs, _, answers⟩ := exists_of_foldl_append
    (fun found (entry : List String × Nat) => levelOf graph groups found entry.2 entry.1)
    groups.zipIdx []
  have entryAt : groups.zipIdx[position]? = some (group, position) := by
    rw [List.getElem?_zipIdx, held]
    simp
  have answer := answers position (group, position) entryAt
  rw [List.nil_append] at foldIs answer
  rw [levels, foldIs]
  exact answer

/-! ### Owners -/

private theorem foldl_owner_of_absent {name : String} (offset : Nat) (start : Option Nat)
    (absent : name ∉ groups.flatten) :
    (groups.zipIdx offset).foldl
      (fun owner entry => if entry.1.contains name then some entry.2 else owner) start =
        start := by
  induction groups generalizing offset start with
  | nil => rfl
  | cons first rest ih =>
      rw [List.flatten_cons, List.mem_append, not_or] at absent
      rw [List.zipIdx_cons, List.foldl_cons, ih _ _ absent.2]
      simp [absent.1]

private theorem foldl_owner {name : String} (offset : Nat) (start : Option Nat) {position : Nat}
    {group : List String} (distinct : groups.flatten.Nodup)
    (held : groups[position]? = some group) (member : name ∈ group) :
    (groups.zipIdx offset).foldl
      (fun owner entry => if entry.1.contains name then some entry.2 else owner) start =
        some (offset + position) := by
  induction groups generalizing offset start position with
  | nil => cases held
  | cons first rest ih =>
      rw [List.flatten_cons, List.nodup_append] at distinct
      rw [List.zipIdx_cons, List.foldl_cons]
      cases position with
      | zero =>
          cases held
          have absent : name ∉ rest.flatten := fun later =>
            distinct.2.2 name member name later rfl
          rw [foldl_owner_of_absent _ _ absent]
          simp [member]
      | succ position =>
          rw [List.getElem?_cons_succ] at held
          rw [ih (offset + 1) _ distinct.2.1 held]
          congr 1
          omega

/-- In groups that do not overlap, the owner of a name is the group that holds it. -/
theorem ownerOf_eq_some {name : String} {position : Nat} {group : List String}
    (distinct : groups.flatten.Nodup) (held : groups[position]? = some group)
    (member : name ∈ group) : ownerOf groups name = some position := by
  have owner := foldl_owner 0 none distinct held member
  rwa [Nat.zero_add] at owner

theorem exists_group_of_ownerOf {name : String} {position : Nat}
    (distinct : groups.flatten.Nodup) (owner : ownerOf groups name = some position) :
    ∃ group, groups[position]? = some group ∧ name ∈ group := by
  by_cases inside : name ∈ groups.flatten
  · obtain ⟨group, isGroup, member⟩ := List.mem_flatten.mp inside
    obtain ⟨other, held⟩ := List.mem_iff_getElem?.mp isGroup
    rw [ownerOf_eq_some distinct held member] at owner
    cases owner
    exact ⟨group, held, member⟩
  · rw [ownerOf, foldl_owner_of_absent 0 none inside] at owner
    cases owner

/-! ### What a group points at -/

/-- An edge leads from a member of one group to a member of a different one. The groups are
named by their positions. -/
def PointsAt (graph : Graph) (groups : List (List String)) (first second : Nat) : Prop :=
  first ≠ second ∧ ∃ sources targets, groups[first]? = some sources ∧
    groups[second]? = some targets ∧ ∃ source ∈ sources, ∃ target ∈ targets,
      graph.Edge source target

theorem PointsAt.second_lt_first (condensed : graph.IsCondensation groups) {first second : Nat}
    (points : graph.PointsAt groups first second) : second < first := by
  obtain ⟨different, sources, targets, firstHeld, secondHeld, source, inSources, target,
    inTargets, edge⟩ := points
  exact condensed.position_lt_of_edge firstHeld secondHeld different inSources inTargets edge

/-- The groups to which a level refers. -/
def pointedAt (graph : Graph) (groups : List (List String)) (position : Nat)
    (members : List String) : List Nat :=
  ((members.flatMap (fun member => (graph.get? member).getD [])).filterMap
    (ownerOf groups)).filter (· != position)

theorem levelOf_eq (found : List Nat) (position : Nat) (members : List String) :
    levelOf graph groups found position members =
      ((pointedAt graph groups position members).map
        (fun owner => found.getD owner 0 + 1)).foldl max 0 := rfl

theorem mem_pointedAt_iff (condensed : graph.IsCondensation groups) {first : Nat}
    {members : List String} (held : groups[first]? = some members) (second : Nat) :
    second ∈ pointedAt graph groups first members ↔ graph.PointsAt groups first second := by
  constructor
  · intro pointed
    obtain ⟨owned, different⟩ := List.mem_filter.mp pointed
    obtain ⟨target, isTarget, owner⟩ := List.mem_filterMap.mp owned
    obtain ⟨source, inMembers, listed⟩ := List.mem_flatMap.mp isTarget
    obtain ⟨targets, secondHeld, inTargets⟩ := exists_group_of_ownerOf condensed.distinct owner
    -- A target with an owner is a node, so the entry of the map is an edge.
    have isNode : graph.contains target = true := by
      apply (condensed.covers target).mp
      exact List.mem_flatten.mpr ⟨targets, List.mem_of_getElem? secondHeld, inTargets⟩
    exact ⟨Ne.symm (bne_iff_ne.mp different), members, targets, held, secondHeld, source,
      inMembers, target, inTargets, List.mem_filter.mpr ⟨listed, isNode⟩⟩
  · rintro ⟨different, sources, targets, firstHeld, secondHeld, source, inSources, target,
      inTargets, edge⟩
    rw [held] at firstHeld
    cases firstHeld
    refine List.mem_filter.mpr ⟨List.mem_filterMap.mpr ⟨target, ?_, ?_⟩, ?_⟩
    · exact List.mem_flatMap.mpr ⟨source, inSources, (List.mem_filter.mp edge).1⟩
    · exact ownerOf_eq_some condensed.distinct secondHeld inTargets
    · exact bne_iff_ne.mpr (Ne.symm different)

theorem start_le_foldl_max (values : List Nat) (start : Nat) :
    start ≤ values.foldl max start := by
  induction values generalizing start with
  | nil => exact Nat.le_refl start
  | cons head tail ih => exact Nat.le_trans (Nat.le_max_left start head) (ih _)

theorem le_foldl_max {values : List Nat} {value : Nat} (start : Nat)
    (member : value ∈ values) : value ≤ values.foldl max start := by
  induction values generalizing start with
  | nil => cases member
  | cons head tail ih =>
      rw [List.foldl_cons]
      rcases List.mem_cons.mp member with rfl | later
      · exact Nat.le_trans (Nat.le_max_right start value) (start_le_foldl_max tail _)
      · exact ih _ later

theorem foldl_max_eq_or_mem (values : List Nat) (start : Nat) :
    values.foldl max start = start ∨ values.foldl max start ∈ values := by
  induction values generalizing start with
  | nil => exact Or.inl rfl
  | cons head tail ih =>
      rw [List.foldl_cons, List.mem_cons]
      rcases ih (max start head) with same | later
      · rw [same]
        omega
      · exact Or.inr (Or.inr later)

/-- When a group gets its level, the levels of all groups it points at are known. -/
theorem take_levels_getD (condensed : graph.IsCondensation groups) {first second level : Nat}
    (points : graph.PointsAt groups first second)
    (levelIs : (levels graph groups)[second]? = some level) :
    ((levels graph groups).take first).getD second 0 = level := by
  have order := points.second_lt_first condensed
  rw [List.getD_eq_getElem?_getD, List.getElem?_take_of_lt order, levelIs]
  rfl

/-- A group lies above whatever it points at. -/
theorem PointsAt.level_lt (condensed : graph.IsCondensation groups) {first second : Nat}
    (points : graph.PointsAt groups first second) {upper lower : Nat}
    (upperIs : (levels graph groups)[first]? = some upper)
    (lowerIs : (levels graph groups)[second]? = some lower) : lower < upper := by
  obtain ⟨_, sources, _, firstHeld, _⟩ := id points
  rw [levels_getElem? firstHeld, levelOf_eq] at upperIs
  rw [← Option.some.inj upperIs, ← take_levels_getD condensed points lowerIs]
  apply le_foldl_max 0
  exact List.mem_map_of_mem ((mem_pointedAt_iff condensed firstHeld second).mpr points)

/-- A group that is not on the lowest level points at a group of the level just below. -/
theorem exists_pointsAt_below (condensed : graph.IsCondensation groups) {first lower : Nat}
    (levelIs : (levels graph groups)[first]? = some (lower + 1)) :
    ∃ second, graph.PointsAt groups first second ∧
      (levels graph groups)[second]? = some lower := by
  obtain ⟨within, _⟩ := List.getElem?_eq_some_iff.mp levelIs
  rw [levels_length] at within
  have held := List.getElem?_eq_getElem within
  rw [levels_getElem? held, levelOf_eq] at levelIs
  have highest := Option.some.inj levelIs
  rcases foldl_max_eq_or_mem ((pointedAt graph groups first groups[first]).map
    (fun owner => ((levels graph groups).take first).getD owner 0 + 1)) 0 with none_ | member
  · rw [none_] at highest
    omega
  · rw [highest] at member
    obtain ⟨second, pointed, answer⟩ := List.mem_map.mp member
    have points := (mem_pointedAt_iff condensed held second).mp pointed
    have secondWithin : second < (levels graph groups).length := by
      rw [levels_length]
      exact Nat.lt_trans (points.second_lt_first condensed) within
    have secondLevel := List.getElem?_eq_getElem secondWithin
    rw [take_levels_getD condensed points secondLevel] at answer
    refine ⟨second, points, ?_⟩
    rw [secondLevel]
    simp only [Option.some.injEq]
    omega

/-- An edge from one component to another leads to a lower level. -/
theorem level_lt_of_edge (condensed : graph.IsCondensation groups) {first second : Nat}
    {sources targets : List String} (firstHeld : groups[first]? = some sources)
    (secondHeld : groups[second]? = some targets) (different : first ≠ second)
    {source target : String} (inSources : source ∈ sources) (inTargets : target ∈ targets)
    (edge : graph.Edge source target) {upper lower : Nat}
    (upperIs : (levels graph groups)[first]? = some upper)
    (lowerIs : (levels graph groups)[second]? = some lower) : lower < upper := by
  have points : graph.PointsAt groups first second := ⟨different, sources, targets, firstHeld,
    secondHeld, source, inSources, target, inTargets, edge⟩
  exact points.level_lt condensed upperIs lowerIs

/-! ### Groups of one level -/

theorem level_lt_depth {values : List Nat} {value : Nat} (member : value ∈ values) :
    value < depth values := by
  have foldIs : depth values = (values.map (· + 1)).foldl max 0 := by
    rw [depth, List.foldl_map]
  rw [foldIs]
  exact le_foldl_max 0 (List.mem_map_of_mem member)

/-- The items of one level. -/
def itemsOfLevel {α : Type} (items : List α) (values : List Nat) (level : Nat) : List α :=
  ((items.zip values).filter (fun entry => entry.2 == level)).map Prod.fst

theorem groupByLevel_eq {α : Type} (items : List α) (values : List Nat) :
    groupByLevel items values = (List.range (depth values)).map (itemsOfLevel items values) := rfl

theorem mem_itemsOfLevel {α : Type} {items : List α} {values : List Nat} {level : Nat}
    {item : α} (member : item ∈ itemsOfLevel items values level) :
    ∃ position : Nat, items[position]? = some item ∧ values[position]? = some level := by
  obtain ⟨⟨held, found⟩, present, rfl⟩ := List.mem_map.mp member
  obtain ⟨inZip, levelIs⟩ := List.mem_filter.mp present
  obtain ⟨position, at_position⟩ := List.mem_iff_getElem?.mp inZip
  rw [List.getElem?_zip_eq_some] at at_position
  rw [← beq_iff_eq.mp levelIs]
  exact ⟨position, at_position.1, at_position.2⟩

private theorem levels_below_perm {α : Type} (entries : List (α × Nat)) (bound : Nat) :
    ((List.range bound).flatMap (fun level => entries.filter (fun entry => entry.2 == level))).Perm
      (entries.filter (fun entry => decide (entry.2 < bound))) := by
  induction bound with
  | zero => simp
  | succ bound ih =>
      rw [List.range_succ, List.flatMap_append, List.flatMap_singleton]
      refine (ih.append_right _).trans ?_
      have parts := List.filter_append_perm (fun entry : α × Nat => decide (entry.2 < bound))
        (entries.filter (fun entry => decide (entry.2 < bound + 1)))
      rw [List.filter_filter, List.filter_filter] at parts
      refine List.Perm.trans (List.Perm.of_eq ?_) parts
      congr 1
      · refine List.filter_congr ?_
        intro entry _
        by_cases less : entry.2 < bound
        · simp [less, Nat.lt_succ_of_lt less]
        · simp [less]
      · refine List.filter_congr ?_
        intro entry _
        by_cases same : entry.2 = bound
        · simp [same]
        · have decided : decide (entry.2 < bound + 1) = decide (entry.2 < bound) := by
            simp only [decide_eq_decide]
            omega
          rw [decided, beq_eq_false_iff_ne.mpr same]
          simp

/-- Grouping by level keeps every item once. -/
theorem groupByLevel_flatten_perm {α : Type} {items : List α} {values : List Nat}
    (sameLength : items.length = values.length) :
    (groupByLevel items values).flatten.Perm items := by
  have flattenIs : (groupByLevel items values).flatten =
      ((List.range (depth values)).flatMap (fun level =>
        (items.zip values).filter (fun entry => entry.2 == level))).map Prod.fst := by
    rw [groupByLevel_eq, List.map_flatMap, List.flatMap_def]
    rfl
  have everything : (items.zip values).filter (fun entry => decide (entry.2 < depth values)) =
      items.zip values := by
    refine List.filter_eq_self.mpr ?_
    rintro ⟨item, value⟩ member
    exact decide_eq_true (level_lt_depth (List.of_mem_zip member).2)
  rw [flattenIs]
  refine ((levels_below_perm (items.zip values) (depth values)).map Prod.fst).trans ?_
  rw [everything, List.map_fst_zip (Nat.le_of_eq sameLength)]

theorem groupByLevel_map {α β : Type} (change : α → β) (items : List α) (values : List Nat) :
    groupByLevel (items.map change) values = (groupByLevel items values).map (List.map change) := by
  rw [groupByLevel_eq, groupByLevel_eq, List.map_map]
  refine List.map_congr_left ?_
  intro level _
  simp only [itemsOfLevel, Function.comp_apply, List.map_map, List.zip_map_left, List.filter_map]
  rfl

/-- Layers of groups in which edges between different groups lead to lower layers. -/
structure IsLayering (graph : Graph) (groups : List (List String))
    (layers : List (List (List String))) : Prop where
  perm : layers.flatten.Perm groups
  upward : layers.Pairwise (fun lower higher =>
    ∀ group ∈ lower, ∀ other ∈ higher, graph.NoEdge group other)
  sideways : ∀ layer ∈ layers, layer.Pairwise (fun group other =>
    graph.NoEdge group other ∧ graph.NoEdge other group)

theorem groupByLevel_isLayering (condensed : graph.IsCondensation groups) :
    graph.IsLayering groups (groupByLevel groups (levels graph groups)) := by
  refine ⟨groupByLevel_flatten_perm (levels_length graph groups).symm, ?_, ?_⟩
  · rw [groupByLevel_eq, List.pairwise_map]
    refine List.Pairwise.imp ?_ List.pairwise_lt_range
    intro lower higher less group inLower other inHigher source inGroup target inOther edge
    obtain ⟨first, firstHeld, firstLevel⟩ := mem_itemsOfLevel inLower
    obtain ⟨second, secondHeld, secondLevel⟩ := mem_itemsOfLevel inHigher
    have different : first ≠ second := by
      rintro rfl
      rw [firstLevel] at secondLevel
      exact Nat.ne_of_lt less (Option.some.inj secondLevel)
    have falls := level_lt_of_edge condensed firstHeld secondHeld different inGroup inOther edge
      firstLevel secondLevel
    exact Nat.lt_asymm less falls
  · intro layer member
    rw [groupByLevel_eq] at member
    obtain ⟨level, _, rfl⟩ := List.mem_map.mp member
    rw [itemsOfLevel, List.pairwise_map, List.pairwise_filter]
    rw [List.pairwise_iff_getElem]
    intro first second firstWithin secondWithin less firstLevel secondLevel
    have heldAt : ∀ (position : Nat)
        (within : position < (groups.zip (levels graph groups)).length),
        groups[position]? = some (groups.zip (levels graph groups))[position].1 ∧
          (levels graph groups)[position]? =
            some (groups.zip (levels graph groups))[position].2 := by
      intro position within
      have found := List.getElem?_eq_getElem within
      exact List.getElem?_zip_eq_some.mp (by rw [found])
    have firstAt := heldAt first firstWithin
    have secondAt := heldAt second secondWithin
    have sameLevel := (beq_iff_eq.mp firstLevel).trans (beq_iff_eq.mp secondLevel).symm
    constructor
    · intro source inFirst target inSecond edge
      have falls := level_lt_of_edge condensed firstAt.1 secondAt.1 (Nat.ne_of_lt less)
        inFirst inSecond edge firstAt.2 secondAt.2
      exact Nat.ne_of_gt falls sameLevel
    · intro source inSecond target inFirst edge
      have falls := level_lt_of_edge condensed secondAt.1 firstAt.1 (Nat.ne_of_gt less)
        inSecond inFirst edge secondAt.2 firstAt.2
      exact Nat.ne_of_lt falls sameLevel

end TexAtlas.Graph
