/-
The levels of the strongly connected components are as low as they can be: a component stands
as high as the longest chain of components that begins with it. So every level up to the
highest is taken, and the groups by level are a schedule in which a component comes strictly
after whatever it points at.
-/

import Mathlib.Order.Bounds.Basic
import TexAtlas.Clustering
import TexAtlas.Proofs.Graph.Levels

namespace TexAtlas.Graph

variable {graph : Graph} {groups : List (List String)}

/-! ### Chains -/

/-- Different groups, named by position, of which each points at the next. -/
structure IsChain (graph : Graph) (groups : List (List String)) (chain : List Nat) : Prop where
  linked : chain.IsChain (graph.PointsAt groups)
  distinct : chain.Nodup

/-- Along edges positions fall, so no chain comes back to a group. -/
theorem isChain_of_linked (condensed : graph.IsCondensation groups) {chain : List Nat}
    (linked : chain.IsChain (graph.PointsAt groups)) : graph.IsChain groups chain := by
  refine ⟨linked, ?_⟩
  have falling : chain.IsChain (· > ·) :=
    linked.imp (fun _ _ points => points.second_lt_first condensed)
  exact (List.isChain_iff_pairwise.mp falling).imp (fun falls => Nat.ne_of_gt falls)

/-- No chain has more edges than the level at which it begins. -/
theorem length_le_level (condensed : graph.IsCondensation groups) {first : Nat}
    {rest : List Nat} (linked : (first :: rest).IsChain (graph.PointsAt groups)) {level : Nat}
    (levelIs : (levels graph groups)[first]? = some level) : rest.length ≤ level := by
  induction rest generalizing first level with
  | nil => exact Nat.zero_le level
  | cons second rest ih =>
      obtain ⟨points, later⟩ := List.isChain_cons_cons.mp linked
      obtain ⟨_, _, targets, _, secondHeld, _⟩ := id points
      obtain ⟨lower, secondLevel⟩ : ∃ lower, (levels graph groups)[second]? = some lower :=
        ⟨_, levels_getElem? secondHeld⟩
      have shorter := ih later secondLevel
      have falls := points.level_lt condensed levelIs secondLevel
      rw [List.length_cons]
      omega

/-- A chain goes down from a group through every level below its own. -/
theorem exists_chain_of_level (condensed : graph.IsCondensation groups) {first level : Nat}
    (levelIs : (levels graph groups)[first]? = some level) :
    ∃ rest : List Nat, (first :: rest).IsChain (graph.PointsAt groups) ∧ rest.length = level := by
  induction level generalizing first with
  | zero => exact ⟨[], List.IsChain.singleton first, rfl⟩
  | succ lower ih =>
      obtain ⟨second, points, lowerIs⟩ := exists_pointsAt_below condensed levelIs
      obtain ⟨rest, linked, lengthIs⟩ := ih lowerIs
      refine ⟨second :: rest, List.isChain_cons_cons.mpr ⟨points, linked⟩, ?_⟩
      rw [List.length_cons, lengthIs]

/-! ### No level is left out -/

theorem exists_ge_of_lt_depth {values : List Nat} {value : Nat} (below : value < depth values) :
    ∃ higher ∈ values, value ≤ higher := by
  rw [depth, ← List.foldl_map (f := (· + 1)) (g := max)] at below
  rcases foldl_max_eq_or_mem (values.map (· + 1)) 0 with none_ | member
  · omega
  · obtain ⟨higher, present, same⟩ := List.mem_map.mp member
    exact ⟨higher, present, by omega⟩

theorem mem_levels_of_le (condensed : graph.IsCondensation groups) {lower higher : Nat}
    (member : higher ∈ levels graph groups) (below : lower ≤ higher) :
    lower ∈ levels graph groups := by
  induction higher with
  | zero =>
      obtain rfl : lower = 0 := by omega
      exact member
  | succ higher ih =>
      by_cases same : lower = higher + 1
      · exact same ▸ member
      · obtain ⟨first, levelIs⟩ := List.mem_iff_getElem?.mp member
        obtain ⟨second, _, lowerIs⟩ := exists_pointsAt_below condensed levelIs
        exact ih (List.mem_of_getElem? lowerIs) (by omega)

/-! ### Placing items one by one -/

/-- Put an item behind the items of its level, if there is a group for that level. -/
def place {α : Type} (layers : List (List α)) (entry : α × Nat) : Option (List (List α)) :=
  if entry.2 < layers.length then some (layers.modify entry.2 (· ++ [entry.1])) else none

/-- The items that a list of entries has for one level. -/
def ofLevel {α : Type} (entries : List (α × Nat)) (level : Nat) : List α :=
  (entries.filter (fun entry => entry.2 == level)).map Prod.fst

theorem ofLevel_append {α : Type} (entries : List (α × Nat)) (entry : α × Nat) (level : Nat) :
    ofLevel (entries ++ [entry]) level =
      if entry.2 = level then ofLevel entries level ++ [entry.1] else ofLevel entries level := by
  unfold ofLevel
  rw [List.filter_append, List.map_append]
  by_cases same : entry.2 = level
  · simp [same]
  · simp [same]

theorem place_ofLevel {α : Type} (bound : Nat) (entries : List (α × Nat)) (entry : α × Nat)
    (within : entry.2 < bound) :
    place ((List.range bound).map (ofLevel entries)) entry =
      some ((List.range bound).map (ofLevel (entries ++ [entry]))) := by
  unfold place
  rw [List.length_map, List.length_range, if_pos within, Option.some.injEq]
  apply List.ext_getElem?
  intro level
  rw [List.getElem?_modify, List.getElem?_map, List.getElem?_map]
  by_cases inRange : level < bound
  · rw [List.getElem?_range inRange, Option.map_some, Option.map_some, ofLevel_append]
    by_cases same : entry.2 = level
    · simp [same]
    · simp [same]
  · have outside : (List.range bound)[level]? = none := by
      rw [List.getElem?_eq_none_iff, List.length_range]
      omega
    rw [outside]
    rfl

theorem foldlM_place {α : Type} (bound : Nat) (done entries : List (α × Nat))
    (within : ∀ entry ∈ entries, entry.2 < bound) :
    entries.foldlM place ((List.range bound).map (ofLevel done)) =
      some ((List.range bound).map (ofLevel (done ++ entries))) := by
  induction entries generalizing done with
  | nil => simp
  | cons entry rest ih =>
      rw [List.foldlM_cons, place_ofLevel bound done entry (within entry (List.mem_cons_self ..))]
      refine (ih (done ++ [entry]) (fun other later =>
        within other (List.mem_cons_of_mem entry later))).trans ?_
      rw [List.append_assoc, List.singleton_append]

/-- Placing the items one by one finds a group for each and groups them by level. -/
theorem foldlM_place_eq_groupByLevel {α : Type} (items : List α) (values : List Nat) :
    (items.zip values).foldlM place (List.replicate (depth values) []) =
      some (groupByLevel items values) := by
  have start : List.replicate (depth values) ([] : List α) =
      (List.range (depth values)).map (ofLevel []) := by
    apply List.ext_getElem <;> simp [ofLevel]
  rw [start, foldlM_place]
  · rfl
  · rintro ⟨item, value⟩ member
    exact level_lt_depth (List.of_mem_zip member).2

/-! ### The schedule -/

/-- Layers of positions in which every group comes once and strictly after whatever it
points at. -/
structure IsSchedule (graph : Graph) (groups : List (List String)) (layers : List (List Nat)) :
    Prop where
  once : layers.flatten.Perm (List.range groups.length)
  inOrder : ∀ layer ∈ layers, layer.Pairwise (· < ·)
  nonempty : ∀ layer ∈ layers, layer ≠ []
  earlier : ∀ first second, graph.PointsAt groups first second →
    ∀ (high low : Nat) (upper lower : List Nat), layers[high]? = some upper → first ∈ upper →
      layers[low]? = some lower → second ∈ lower → low < high
  apart : ∀ layer ∈ layers, ∀ first ∈ layer, ∀ second ∈ layer,
    ¬graph.PointsAt groups first second

/-- The positions of each level. -/
def layersOf (graph : Graph) (groups : List (List String)) : List (List Nat) :=
  groupByLevel (List.range groups.length) (levels graph groups)

theorem getElem?_layersOf {level : Nat} {layer : List Nat}
    (held : (layersOf graph groups)[level]? = some layer) :
    level < depth (levels graph groups) ∧
      layer = itemsOfLevel (List.range groups.length) (levels graph groups) level := by
  rw [layersOf, groupByLevel_eq, List.getElem?_map] at held
  by_cases within : level < depth (levels graph groups)
  · rw [List.getElem?_range within] at held
    exact ⟨within, (Option.some.inj held).symm⟩
  · have outside : (List.range (depth (levels graph groups)))[level]? = none := by
      rw [List.getElem?_eq_none_iff, List.length_range]
      omega
    rw [outside] at held
    cases held

theorem mem_itemsOfLevel_range_iff (level position : Nat) :
    position ∈ itemsOfLevel (List.range groups.length) (levels graph groups) level ↔
      (levels graph groups)[position]? = some level := by
  constructor
  · intro member
    obtain ⟨other, held, levelIs⟩ := mem_itemsOfLevel member
    obtain ⟨within, rfl⟩ := List.getElem?_eq_some_iff.mp held
    rwa [List.getElem_range]
  · intro levelIs
    obtain ⟨within, _⟩ := List.getElem?_eq_some_iff.mp levelIs
    rw [levels_length] at within
    refine List.mem_map.mpr ⟨(position, level), List.mem_filter.mpr ⟨?_, beq_self_eq_true level⟩, rfl⟩
    apply List.mem_iff_getElem?.mpr
    exact ⟨position, List.getElem?_zip_eq_some.mpr ⟨List.getElem?_range within, levelIs⟩⟩

theorem mem_layersOf_iff {level : Nat} {layer : List Nat}
    (held : (layersOf graph groups)[level]? = some layer) (position : Nat) :
    position ∈ layer ↔ (levels graph groups)[position]? = some level := by
  rw [(getElem?_layersOf held).2, mem_itemsOfLevel_range_iff]

theorem layersOf_isSchedule (condensed : graph.IsCondensation groups) :
    graph.IsSchedule groups (layersOf graph groups) := by
  have earlier : ∀ first second, graph.PointsAt groups first second →
      ∀ (high low : Nat) (upper lower : List Nat), (layersOf graph groups)[high]? = some upper →
        first ∈ upper → (layersOf graph groups)[low]? = some lower → second ∈ lower →
          low < high := by
    intro first second points high low upper lower upperHeld inUpper lowerHeld inLower
    exact points.level_lt condensed ((mem_layersOf_iff upperHeld first).mp inUpper)
      ((mem_layersOf_iff lowerHeld second).mp inLower)
  refine ⟨?_, ?_, ?_, earlier, ?_⟩
  · apply groupByLevel_flatten_perm
    rw [List.length_range, levels_length]
  · intro layer member
    obtain ⟨level, held⟩ := List.mem_iff_getElem?.mp member
    rw [(getElem?_layersOf held).2, itemsOfLevel]
    have sublist := (List.filter_sublist (p := fun entry : Nat × Nat => entry.2 == level)
      (l := (List.range groups.length).zip (levels graph groups))).map Prod.fst
    rw [List.map_fst_zip (by rw [List.length_range, levels_length])] at sublist
    exact List.pairwise_lt_range.sublist sublist
  · intro layer member
    obtain ⟨level, held⟩ := List.mem_iff_getElem?.mp member
    obtain ⟨higher, present, below⟩ := exists_ge_of_lt_depth (getElem?_layersOf held).1
    obtain ⟨position, levelIs⟩ := List.mem_iff_getElem?.mp (mem_levels_of_le condensed present below)
    exact List.ne_nil_of_mem ((mem_layersOf_iff held position).mpr levelIs)
  · intro layer member first inFirst second inSecond points
    obtain ⟨level, held⟩ := List.mem_iff_getElem?.mp member
    exact Nat.lt_irrefl level
      (earlier first second points level level layer layer held inFirst held inSecond)

/-- A list of as many items as there are groups is grouped along with their positions. -/
theorem groupByLevel_eq_map_layersOf {α : Type} {items : List α} (filler : α)
    (sameSize : items.length = groups.length) :
    groupByLevel items (levels graph groups) =
      (layersOf graph groups).map (List.map (fun position => items.getD position filler)) := by
  have itemsAre : (List.range groups.length).map (fun position => items.getD position filler) =
      items := by
    apply List.ext_getElem
    · rw [List.length_map, List.length_range, sameSize]
    · intro position _ within
      rw [List.getElem_map, List.getElem_range, List.getD_eq_getElem?_getD,
        List.getElem?_eq_getElem within]
      rfl
  rw [layersOf, ← groupByLevel_map, itemsAre]

/-- The level of a component is the number of edges of the longest chain of components that
begins with it. So the groups of a clustering with these levels, which are filled one item at
a time without ever missing a group, are a schedule without empty layers. -/
theorem levels_longest_chain (graph : Graph) :
    (levels graph graph.strongComponents).length = graph.strongComponents.length ∧
    (∀ position level : Nat, (levels graph graph.strongComponents)[position]? = some level →
      IsGreatest { edges | ∃ rest : List Nat,
        graph.IsChain graph.strongComponents (position :: rest) ∧ rest.length = edges } level) ∧
    ∀ clustering : Clustering, clustering.levels = levels graph graph.strongComponents →
      clustering.components.length = graph.strongComponents.length →
        (clustering.components.zip clustering.levels).foldlM place
          (List.replicate (depth clustering.levels) []) = some clustering.byLevel ∧
        ∃ layers : List (List Nat), graph.IsSchedule graph.strongComponents layers ∧
          clustering.byLevel = layers.map
            (List.map (fun position => clustering.components.getD position [])) := by
  have condensed := strongComponents_isCondensation graph
  refine ⟨levels_length graph graph.strongComponents, ?_, ?_⟩
  · intro position level levelIs
    constructor
    · obtain ⟨rest, linked, lengthIs⟩ := exists_chain_of_level condensed levelIs
      exact ⟨rest, isChain_of_linked condensed linked, lengthIs⟩
    · rintro edges ⟨rest, chain, rfl⟩
      exact length_le_level condensed chain.linked levelIs
  · intro clustering levelsAre sameSize
    refine ⟨foldlM_place_eq_groupByLevel _ _, _, layersOf_isSchedule condensed, ?_⟩
    rw [Clustering.byLevel, levelsAre]
    exact groupByLevel_eq_map_layersOf [] sameSize

/-- Two ways lead down from the top, one of them over two files that load each other. -/
def diamond : Graph :=
  NameMap.ofList [("top", ["left", "right"]), ("left", ["knot", "base"]), ("knot", ["left"]),
    ("right", ["base"]), ("base", [])]

/-- The clustering of the diamond, the files standing for themselves. -/
def diamondClustering : Clustering :=
  { components := diamond.strongComponents.map
      (List.map (fun name => Dependency.ofDiscovered (File.unindexed name) []))
    levels := levels diamond diamond.strongComponents }

theorem diamond_longest_chain :
    diamond.strongComponents = [["base"], ["knot", "left"], ["right"], ["top"]] ∧
    (levels diamond diamond.strongComponents = [0, 1, 1, 2] ∧
      IsGreatest { edges | ∃ rest : List Nat,
        diamond.IsChain diamond.strongComponents (3 :: rest) ∧ rest.length = edges } 2) ∧
    diamondClustering.levels = levels diamond diamond.strongComponents ∧
    diamondClustering.components.length = diamond.strongComponents.length ∧
    (diamondClustering.components.zip diamondClustering.levels).foldlM place
      (List.replicate (depth diamondClustering.levels) []) = some diamondClustering.byLevel ∧
    ∃ layers : List (List Nat), diamond.IsSchedule diamond.strongComponents layers ∧
      diamondClustering.byLevel = layers.map
        (List.map (fun position => diamondClustering.components.getD position [])) := by
  have levelsAre : levels diamond diamond.strongComponents = [0, 1, 1, 2] := by decide +kernel
  have sameSize : diamondClustering.components.length = diamond.strongComponents.length :=
    List.length_map _
  obtain ⟨_, chains, schedules⟩ := levels_longest_chain diamond
  refine ⟨by decide +kernel, ⟨levelsAre, chains 3 2 ?_⟩, rfl, sameSize,
    schedules diamondClustering rfl sameSize⟩
  rw [levelsAre]
  rfl

end TexAtlas.Graph
