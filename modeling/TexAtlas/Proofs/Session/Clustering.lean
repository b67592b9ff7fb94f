/-
The clustering of a working set. Its groups are the strongly connected parts of the whole
reference graph, although only open files are looked at: files that are not open refer to
no open ones, so no cycle leaves the working set. The layers can be worked on from the
lowest up, and a baseline file, to which nothing refers, has its layer for its own group.
-/

import TexAtlas.Proofs.Graph.Levels
import TexAtlas.Proofs.Session.Discovery

namespace TexAtlas

namespace Clustering

/-- The names of the files of several groups. -/
def namesOf (groups : List (List Dependency)) : List String :=
  groups.flatten.map Dependency.name

theorem mem_namesOf (groups : List (List Dependency)) (name : String) :
    name ∈ namesOf groups ↔ ∃ members ∈ groups, name ∈ members.map Dependency.name := by
  rw [namesOf, List.map_flatten, List.mem_flatten]
  constructor
  · rintro ⟨names, present, inside⟩
    obtain ⟨members, isGroup, rfl⟩ := List.mem_map.mp present
    exact ⟨members, isGroup, inside⟩
  · rintro ⟨members, isGroup, inside⟩
    exact ⟨_, List.mem_map_of_mem isGroup, inside⟩

theorem namesOf_cons (members : List Dependency) (rest : List (List Dependency)) :
    namesOf (members :: rest) = members.map Dependency.name ++ namesOf rest := by
  rw [namesOf, List.flatten_cons, List.map_append]
  rfl

theorem namesOf_append (left right : List (List Dependency)) :
    namesOf (left ++ right) = namesOf left ++ namesOf right := by
  rw [namesOf, List.flatten_append, List.map_append]
  rfl

/-- No member of one group refers to a member of another. -/
def NoReference (memo : Memo) (members others : List Dependency) : Prop :=
  ∀ source ∈ members.map Dependency.name, ∀ target ∈ others.map Dependency.name,
    ¬memo.Refers source target

/-- Whatever a group refers to outside itself is below it: in a set given beforehand, or in
an earlier layer. -/
def Downward : (String → Prop) → List (List (List Dependency)) → Prop
  | _, [] => True
  | below, layer :: rest =>
    (∀ members ∈ layer, ∀ name ∈ Component.outwardReferences members, below name) ∧
      Downward (fun name => below name ∨ name ∈ namesOf layer) rest

theorem Downward.mono {below wider : String → Prop} {layers : List (List (List Dependency))}
    (downward : Downward below layers) (wide : ∀ name, below name → wider name) :
    Downward wider layers := by
  induction layers generalizing below wider with
  | nil => trivial
  | cons layer rest ih =>
      refine ⟨fun members inLayer name outward =>
        wide name (downward.1 members inLayer name outward), ih downward.2 ?_⟩
      rintro name (inBelow | inLayer)
      · exact Or.inl (wide name inBelow)
      · exact Or.inr inLayer

theorem Downward.split {below : String → Prop} {before after : List (List (List Dependency))}
    (downward : Downward below (before ++ after)) :
    (∀ layer ∈ before, ∀ members ∈ layer, ∀ name ∈ Component.outwardReferences members,
        below name ∨ name ∈ namesOf before.flatten) ∧
      Downward (fun name => below name ∨ name ∈ namesOf before.flatten) after := by
  induction before generalizing below with
  | nil =>
      refine ⟨fun layer impossible => absurd impossible List.not_mem_nil, ?_⟩
      exact downward.mono (fun name inBelow => Or.inl inBelow)
  | cons first before ih =>
      obtain ⟨inside, rest⟩ := ih downward.2
      have widen : ∀ name, (below name ∨ name ∈ namesOf first) ∨ name ∈ namesOf before.flatten →
          below name ∨ name ∈ namesOf (first :: before).flatten := by
        intro name place
        rw [List.flatten_cons, namesOf_append, List.mem_append]
        rcases place with (inBelow | inFirst) | inBefore
        · exact Or.inl inBelow
        · exact Or.inr (Or.inl inFirst)
        · exact Or.inr (Or.inr inBefore)
      refine ⟨?_, rest.mono widen⟩
      intro layer member members inLayer name outward
      rcases List.mem_cons.mp member with rfl | later
      · exact Or.inl (downward.1 members inLayer name outward)
      · exact widen name (inside layer later members inLayer name outward)

/-- Layers between which references lead down only, and within which they stay in their
group, are downward. -/
theorem downward_of_noReference {memo : Memo} {below : String → Prop}
    {layers : List (List (List Dependency))}
    (remembered : ∀ layer ∈ layers, ∀ members ∈ layer, ∀ member ∈ members,
      memo.get? member.name = some member)
    (upward : layers.Pairwise (fun lower higher =>
      ∀ members ∈ lower, ∀ others ∈ higher, NoReference memo members others))
    (sideways : ∀ layer ∈ layers, layer.Pairwise (fun members others =>
      NoReference memo members others ∧ NoReference memo others members))
    (known : ∀ layer ∈ layers, ∀ members ∈ layer, ∀ name ∈ Component.outwardReferences members,
      below name ∨ name ∈ namesOf layers.flatten) : Downward below layers := by
  induction layers generalizing below with
  | nil => trivial
  | cons layer rest ih =>
      rw [List.pairwise_cons] at upward
      have first : layer ∈ layer :: rest := List.mem_cons_self ..
      constructor
      · intro members inLayer name outward
        rcases known layer first members inLayer name outward with inBelow | inLayers
        · exact inBelow
        · obtain ⟨⟨member, inMembers, isReference⟩, notInside⟩ :=
            (Component.mem_outwardReferences members name).mp outward
          have refers : memo.Refers member.name name :=
            ⟨member, remembered layer first members inLayer member inMembers, isReference⟩
          have sourceIn := List.mem_map_of_mem (f := Dependency.name) inMembers
          rw [List.flatten_cons, namesOf_append, List.mem_append, mem_namesOf, mem_namesOf]
            at inLayers
          rcases inLayers with ⟨others, inSame, inOthers⟩ | ⟨others, inRest, inOthers⟩
          · have different : members ≠ others := fun same => notInside (same ▸ inOthers)
            have apart := List.Pairwise.forall_of_forall_of_flip
              (R := fun members others => members ≠ others → NoReference memo members others)
              (fun group _ unequal => absurd rfl unequal)
              ((sideways layer first).imp (fun both _ => both.1))
              ((sideways layer first).imp (fun both _ => both.2))
            exact absurd refers (apart inLayer inSame different _ sourceIn _ inOthers)
          · obtain ⟨higher, inHigher, isGroup⟩ := List.mem_flatten.mp inRest
            exact absurd refers
              (upward.1 higher inHigher members inLayer others isGroup _ sourceIn _ inOthers)
      · refine ih (fun other later => remembered other (List.mem_cons_of_mem layer later)) upward.2
          (fun other later => sideways other (List.mem_cons_of_mem layer later)) ?_
        intro other later members inOther name outward
        have place := known other (List.mem_cons_of_mem layer later) members inOther name outward
        rw [List.flatten_cons, namesOf_append, List.mem_append] at place
        rcases place with inBelow | inLayer | inRest
        · exact Or.inl (Or.inl inBelow)
        · exact Or.inl (Or.inr inLayer)
        · exact Or.inr inRest

/-- Layers of groups that can be worked on from the lowest up. -/
structure IsLayered (settings : Settings) (memo : Memo) (below : String → Prop)
    (layers : List (List (List Dependency))) : Prop where
  groups : ∀ layer ∈ layers, ∀ members ∈ layer, memo.IsGroup members
  distinct : (namesOf layers.flatten).Nodup
  downward : Downward below layers
  /-- A group with a baseline file is alone in its layer. -/
  alone : ∀ layer ∈ layers, ∀ name ∈ settings.baseline.toList, name ∈ namesOf layer →
    ∃ members, layer = [members]

end Clustering

namespace Session

open Clustering (namesOf)

variable {settings : Settings} {admitted : File → Prop} {registry : Registry} {memo : Memo}
  {entry : String} {nodes : NameMap Dependency}

/-! ### The graph of a working set -/

theorem get?_referenceGraph (nodes : NameMap Dependency) (name : String) :
    (referenceGraph nodes).get? name =
      (nodes.get? name).map (fun dependency =>
        dependency.referenceNames.filter nodes.contains) := by
  have keys : ((nodes.entries.map (fun entry => (entry.1,
      entry.2.referenceNames.filter nodes.contains))).map Prod.fst).Nodup := by
    rw [List.map_map]
    exact nodes.distinct
  refine (NameMap.get?_ofList _ keys name).trans ?_
  exact NameMap.find_map (fun _ dependency => dependency.referenceNames.filter nodes.contains)
    nodes.entries name

theorem contains_referenceGraph (nodes : NameMap Dependency) (name : String) :
    (referenceGraph nodes).contains name = nodes.contains name := by
  rw [NameMap.contains, get?_referenceGraph, Option.isSome_map]
  rfl

theorem edge_iff (working : IsWorkingSet settings registry memo entry nodes)
    (source target : String) :
    (referenceGraph nodes).Edge source target ↔
      nodes.contains source = true ∧ nodes.contains target = true ∧
        memo.Refers source target := by
  constructor
  · intro edge
    have sourceNode := Graph.contains_source_of_edge edge
    have targetNode := Graph.contains_of_edge edge
    rw [contains_referenceGraph] at sourceNode targetNode
    obtain ⟨dependency, found⟩ := (NameMap.contains_iff nodes source).mp sourceNode
    have member := (List.mem_filter.mp edge).1
    rw [get?_referenceGraph, found] at member
    exact ⟨sourceNode, targetNode, dependency, working.remembered source dependency found,
      (List.mem_filter.mp member).1⟩
  · rintro ⟨sourceNode, targetNode, dependency, found, member⟩
    obtain ⟨known, held⟩ := (NameMap.contains_iff nodes source).mp sourceNode
    rw [working.remembered source known held] at found
    cases found
    refine List.mem_filter.mpr ⟨?_, by rw [contains_referenceGraph]; exact targetNode⟩
    rw [get?_referenceGraph, held]
    exact List.mem_filter.mpr ⟨member, targetNode⟩

theorem reaches_of_graph (working : IsWorkingSet settings registry memo entry nodes)
    {source target : String} (path : (referenceGraph nodes).Reaches source target) :
    memo.Reaches source target := by
  induction path with
  | refl => exact .refl
  | step edge _ ih => exact .head ((edge_iff working _ _).mp edge).2.2 ih

/-- A chain of references between nodes stays among the nodes, because files that are not
open refer to none that is. -/
theorem graph_of_reaches (working : IsWorkingSet settings registry memo entry nodes)
    (sealed : ∀ source target, ¬registry.IsOpen source → memo.Refers source target →
      ¬registry.IsOpen target)
    {source target : String} (chain : memo.Reaches source target)
    (sourceNode : nodes.contains source = true) (targetNode : nodes.contains target = true) :
    (referenceGraph nodes).Reaches source target := by
  induction chain using Relation.ReflTransGen.head_induction_on with
  | refl => exact .refl target
  | @head first middle refers rest ih =>
      have middleOpen : registry.IsOpen middle := by
        by_contra notOpen
        exact Memo.Reaches.stays sealed rest notOpen (working.nodesOpen target targetNode)
      have middleNode := working.closed first middle sourceNode refers middleOpen
      exact .step ((edge_iff working first middle).mpr ⟨sourceNode, middleNode, refers⟩)
        (ih middleNode)

theorem mutual_iff (working : IsWorkingSet settings registry memo entry nodes)
    (sealed : ∀ source target, ¬registry.IsOpen source → memo.Refers source target →
      ¬registry.IsOpen target)
    {name : String} (isNode : nodes.contains name = true) (other : String) :
    (referenceGraph nodes).Mutual name other ↔ memo.Together name other := by
  constructor
  · exact fun both => ⟨reaches_of_graph working both.1, reaches_of_graph working both.2⟩
  · intro both
    -- A file that reaches a node is open itself, so the chain from the node leads to a node.
    have otherNode : nodes.contains other = true := by
      have path : ∀ {last : String}, memo.Reaches name last → memo.Reaches last name →
          nodes.contains last = true := by
        intro last forth
        induction forth with
        | refl => exact fun _ => isNode
        | @tail earlier last _ refers ih =>
            intro back
            have earlierNode := ih (.head refers back)
            refine working.closed earlier last earlierNode refers ?_
            by_contra notOpen
            exact Memo.Reaches.stays sealed back notOpen (working.nodesOpen name isNode)
      exact path both.1 both.2
    exact ⟨graph_of_reaches working sealed both.1 isNode otherNode,
      graph_of_reaches working sealed both.2 otherNode isNode⟩

/-! ### The groups -/

theorem IsWorkingSet.named (working : IsWorkingSet settings registry memo entry nodes)
    (named : memo.Named) : Memo.Named nodes :=
  fun name dependency found => named name dependency (working.remembered name dependency found)

theorem map_name_membersOf {names : List String} (named : Memo.Named nodes)
    (areNodes : ∀ name ∈ names, nodes.contains name = true) :
    (membersOf nodes names).map Dependency.name = (SortedNames.ofList names).toList := by
  have each : ∀ sorted : List String, (∀ name ∈ sorted, nodes.contains name = true) →
      (sorted.filterMap nodes.get?).map Dependency.name = sorted := by
    intro sorted
    induction sorted with
    | nil => exact fun _ => rfl
    | cons head tail ih =>
        intro held
        obtain ⟨dependency, found⟩ := (NameMap.contains_iff nodes head).mp
          (held head (List.mem_cons_self ..))
        rw [List.filterMap_cons_some found, List.map_cons,
          ih (fun name member => held name (List.mem_cons_of_mem head member)),
          named head dependency found]
  exact each _ (fun name member => areNodes name ((SortedNames.mem_ofList names name).mp member))

theorem mem_membersOf {names : List String} {member : Dependency}
    (inside : member ∈ membersOf nodes names) : ∃ name, nodes.get? name = some member := by
  obtain ⟨name, _, found⟩ := List.mem_filterMap.mp inside
  exact ⟨name, found⟩

theorem namesOf_map_membersOf (named : Memo.Named nodes) {groups : List (List String)}
    (distinct : groups.flatten.Nodup)
    (areNodes : ∀ name ∈ groups.flatten, nodes.contains name = true) :
    (namesOf (groups.map (membersOf nodes))).Perm groups.flatten := by
  induction groups with
  | nil => exact List.Perm.refl _
  | cons names rest ih =>
      rw [List.flatten_cons, List.nodup_append] at distinct
      rw [List.map_cons, Clustering.namesOf_cons, List.flatten_cons]
      refine List.Perm.append ?_ (ih distinct.2.1 (fun name member =>
        areNodes name (List.mem_append_right names member)))
      rw [map_name_membersOf named (fun name member =>
        areNodes name (List.mem_append_left _ member))]
      refine (List.perm_ext_iff_of_nodup ?_ distinct.1).mpr (SortedNames.mem_ofList names)
      exact SortedNames.nodup_of_ascending (SortedNames.ofList names).ascending

/-- The clustering has the nodes and no other files, each once. -/
theorem namesOf_clusterNodes (named : Memo.Named nodes) :
    (namesOf (clusterNodes nodes).components).Perm nodes.keys := by
  have condensed := Graph.strongComponents_isCondensation (referenceGraph nodes)
  have covers : ∀ name, name ∈ (referenceGraph nodes).strongComponents.flatten ↔
      nodes.contains name = true := by
    intro name
    rw [condensed.covers, contains_referenceGraph]
  refine (namesOf_map_membersOf named condensed.distinct
    (fun name member => (covers name).mp member)).trans ?_
  apply (List.perm_ext_iff_of_nodup condensed.distinct nodes.distinct).mpr
  exact fun name => (covers name).trans (NameMap.mem_keys_iff nodes name).symm

theorem membersOf_isGroup (named : memo.Named)
    (working : IsWorkingSet settings registry memo entry nodes)
    (sealed : ∀ source target, ¬registry.IsOpen source → memo.Refers source target →
      ¬registry.IsOpen target)
    {names : List String} (member : names ∈ (referenceGraph nodes).strongComponents) :
    memo.IsGroup (membersOf nodes names) := by
  have condensed := Graph.strongComponents_isCondensation (referenceGraph nodes)
  have areNodes : ∀ name ∈ names, nodes.contains name = true := by
    intro name inside
    rw [← contains_referenceGraph]
    exact (condensed.covers name).mp (List.mem_flatten.mpr ⟨names, member, inside⟩)
  have namesAre := map_name_membersOf (working.named named) areNodes
  refine ⟨?_, ?_, ?_, ?_⟩
  · intro empty
    rw [empty] at namesAre
    refine condensed.nonempty names member (List.eq_nil_iff_forall_not_mem.mpr ?_)
    intro name inside
    have sorted := (SortedNames.mem_ofList names name).mpr inside
    rw [← namesAre] at sorted
    cases sorted
  · rw [namesAre]
    exact (SortedNames.ofList names).ascending
  · intro dependency inside
    obtain ⟨name, found⟩ := mem_membersOf inside
    have held := working.remembered name dependency found
    rwa [named name dependency held]
  · intro dependency inside other
    have inNames : dependency.name ∈ names := by
      rw [← SortedNames.mem_ofList, ← namesAre]
      exact List.mem_map_of_mem inside
    rw [namesAre, SortedNames.mem_ofList, condensed.exact names member _ inNames other]
    exact mutual_iff working sealed (areNodes _ inNames) other

/-! ### The layers -/

theorem byLevel_clusterNodes (nodes : NameMap Dependency) :
    (clusterNodes nodes).byLevel =
      (Graph.groupByLevel (referenceGraph nodes).strongComponents
        ((referenceGraph nodes).levels (referenceGraph nodes).strongComponents)).map
          (List.map (membersOf nodes)) :=
  Graph.groupByLevel_map (membersOf nodes) _ _

theorem namesOf_byLevel_clusterNodes (named : memo.Named)
    (working : IsWorkingSet settings registry memo entry nodes) :
    (namesOf (clusterNodes nodes).byLevel.flatten).Perm
      (referenceGraph nodes).strongComponents.flatten := by
  have condensed := Graph.strongComponents_isCondensation (referenceGraph nodes)
  have layering := Graph.groupByLevel_isLayering condensed
  have flattenPerm := layering.perm.flatten
  rw [byLevel_clusterNodes, ← List.map_flatten]
  refine (namesOf_map_membersOf (working.named named)
    (flattenPerm.nodup_iff.mpr condensed.distinct) ?_).trans flattenPerm
  intro name member
  rw [← contains_referenceGraph]
  exact (condensed.covers name).mp (flattenPerm.mem_iff.mp member)

theorem mem_namesOf_byLevel_iff (named : memo.Named)
    (working : IsWorkingSet settings registry memo entry nodes) (name : String) :
    name ∈ namesOf (clusterNodes nodes).byLevel.flatten ↔ nodes.contains name = true := by
  rw [(namesOf_byLevel_clusterNodes named working).mem_iff,
    (Graph.strongComponents_isCondensation (referenceGraph nodes)).covers,
    contains_referenceGraph]

theorem mem_components_clusterNodes (nodes : NameMap Dependency) (members : List Dependency) :
    members ∈ (clusterNodes nodes).components ↔ members ∈ (clusterNodes nodes).byLevel.flatten := by
  have condensed := Graph.strongComponents_isCondensation (referenceGraph nodes)
  rw [byLevel_clusterNodes, ← List.map_flatten]
  exact ((Graph.groupByLevel_isLayering condensed).perm.map (membersOf nodes)).mem_iff.symm

theorem byLevel_downward (named : memo.Named)
    (working : IsWorkingSet settings registry memo entry nodes)
    (groups : ∀ layer ∈ (clusterNodes nodes).byLevel, ∀ members ∈ layer, memo.IsGroup members) :
    Clustering.Downward (fun name => ¬registry.IsOpen name) (clusterNodes nodes).byLevel := by
  have condensed := Graph.strongComponents_isCondensation (referenceGraph nodes)
  have layering := Graph.groupByLevel_isLayering condensed
  have noReference : ∀ first second : List String,
      (∀ name ∈ first, nodes.contains name = true) → (∀ name ∈ second, nodes.contains name = true) →
      (referenceGraph nodes).NoEdge first second →
        Clustering.NoReference memo (membersOf nodes first) (membersOf nodes second) := by
    intro first second firstNodes secondNodes noEdge source inFirst target inSecond refers
    rw [map_name_membersOf (working.named named) firstNodes, SortedNames.mem_ofList] at inFirst
    rw [map_name_membersOf (working.named named) secondNodes, SortedNames.mem_ofList] at inSecond
    exact noEdge source inFirst target inSecond ((edge_iff working source target).mpr
      ⟨firstNodes source inFirst, secondNodes target inSecond, refers⟩)
  have layerNodes : ∀ layer ∈ Graph.groupByLevel (referenceGraph nodes).strongComponents
      ((referenceGraph nodes).levels (referenceGraph nodes).strongComponents),
      ∀ names ∈ layer, ∀ name ∈ names, nodes.contains name = true := by
    intro layer member names inLayer name inside
    rw [← contains_referenceGraph]
    refine (condensed.covers name).mp (List.mem_flatten.mpr ⟨names, ?_, inside⟩)
    exact layering.perm.mem_iff.mp (List.mem_flatten.mpr ⟨layer, member, inLayer⟩)
  refine Clustering.downward_of_noReference
    (fun layer member members inLayer => (groups layer member members inLayer).remembered) ?_ ?_ ?_
  · rw [byLevel_clusterNodes, List.pairwise_map]
    refine layering.upward.imp_of_mem ?_
    intro lower higher inLower inHigher noEdges members isLower others isHigher
    obtain ⟨first, inFirst, rfl⟩ := List.mem_map.mp isLower
    obtain ⟨second, inSecond, rfl⟩ := List.mem_map.mp isHigher
    exact noReference first second (layerNodes lower inLower first inFirst)
      (layerNodes higher inHigher second inSecond) (noEdges first inFirst second inSecond)
  · rw [byLevel_clusterNodes]
    intro layer member
    obtain ⟨names, inLayers, rfl⟩ := List.mem_map.mp member
    rw [List.pairwise_map]
    refine (layering.sideways names inLayers).imp_of_mem ?_
    intro first second inFirst inSecond both
    have firstNodes := layerNodes names inLayers first inFirst
    have secondNodes := layerNodes names inLayers second inSecond
    exact ⟨noReference first second firstNodes secondNodes both.1,
      noReference second first secondNodes firstNodes both.2⟩
  · intro layer member members inLayer name outward
    obtain ⟨⟨dependency, inMembers, isReference⟩, _⟩ :=
      (Component.mem_outwardReferences members name).mp outward
    rw [mem_namesOf_byLevel_iff named working]
    by_cases isOpen : registry.IsOpen name
    · refine Or.inr (working.closed dependency.name name ?_ ⟨dependency,
        (groups layer member members inLayer).remembered dependency inMembers, isReference⟩ isOpen)
      rw [← mem_namesOf_byLevel_iff named working, Clustering.mem_namesOf]
      exact ⟨members, List.mem_flatten.mpr ⟨layer, member, inLayer⟩, List.mem_map_of_mem inMembers⟩
    · exact Or.inl isOpen

/-- The only baseline file that a working set can hold is its entry. -/
theorem eq_entry_of_baseline (probed : memo.ProbedFrom settings admitted)
    (working : IsWorkingSet settings registry memo entry nodes) {name : String}
    (inBaseline : name ∈ settings.baseline.toList) (isNode : nodes.contains name = true) :
    name = entry := by
  rcases (working.nodesReached name isNode).cases_tail with same | ⟨earlier, _, refers⟩
  · exact same
  · exact absurd inBaseline (probed.target_not_baseline refers)

/-- From a group only the group itself, lower layers and files that are not open are
reached. -/
theorem reached_from_group
    (sealed : ∀ source target, ¬registry.IsOpen source → memo.Refers source target →
      ¬registry.IsOpen target)
    {before after : List (List (List Dependency))} {layer : List (List Dependency)}
    (groups : ∀ other ∈ before ++ layer :: after, ∀ members ∈ other, memo.IsGroup members)
    (downward : Clustering.Downward (fun name => ¬registry.IsOpen name)
      (before ++ layer :: after))
    {host : List Dependency} (inLayer : host ∈ layer) {source target : String}
    (sourceInside : source ∈ host.map Dependency.name) (chain : memo.Reaches source target) :
    ¬registry.IsOpen target ∨ target ∈ namesOf before.flatten ∨
      target ∈ host.map Dependency.name := by
  obtain ⟨beforeBelow, rest⟩ := downward.split
  have hostGroup := groups layer (List.mem_append_right _ (List.mem_cons_self ..)) host inLayer
  have closed : ∀ source target, (¬registry.IsOpen source ∨ source ∈ namesOf before.flatten ∨
      source ∈ host.map Dependency.name) → memo.Refers source target →
        (¬registry.IsOpen target ∨ target ∈ namesOf before.flatten ∨
          target ∈ host.map Dependency.name) := by
    intro source target inside refers
    rcases inside with notOpen | inBefore | inHost
    · exact Or.inl (sealed source target notOpen refers)
    · obtain ⟨members, isGroup, sourceIn⟩ := (Clustering.mem_namesOf _ _).mp inBefore
      obtain ⟨lower, inLower, isMember⟩ := List.mem_flatten.mp isGroup
      have group := groups lower (List.mem_append_left _ inLower) members isMember
      rcases group.inside_or_outward sourceIn refers with sameGroup | outward
      · exact Or.inr (Or.inl ((Clustering.mem_namesOf _ _).mpr ⟨members, isGroup, sameGroup⟩))
      · rcases beforeBelow lower inLower members isMember target outward with below | before
        · exact Or.inl below
        · exact Or.inr (Or.inl before)
    · rcases hostGroup.inside_or_outward inHost refers with sameGroup | outward
      · exact Or.inr (Or.inr sameGroup)
      · rcases rest.1 host inLayer target outward with below | before
        · exact Or.inl below
        · exact Or.inr (Or.inl before)
  exact Memo.Reaches.stays closed chain (Or.inr (Or.inr sourceInside))

/-- A layer is just one group if all its other groups are reached from that group. -/
theorem layer_eq_singleton {before : List String} {layer : List (List Dependency)}
    {host : List Dependency} (inLayer : host ∈ layer)
    (nonempty : ∀ members ∈ layer, members ≠ [])
    (distinct : (before ++ namesOf layer).Nodup)
    (within : ∀ name ∈ namesOf layer, name ∈ before ∨ name ∈ host.map Dependency.name) :
    layer = [host] := by
  obtain ⟨left, right, rfl⟩ := List.append_of_mem inLayer
  have moved : (namesOf (left ++ host :: right)).Perm
      (host.map Dependency.name ++ namesOf (left ++ right)) := by
    rw [Clustering.namesOf_append, Clustering.namesOf_cons, Clustering.namesOf_append]
    exact List.perm_append_comm_assoc _ _ _
  rw [List.nodup_append, moved.nodup_iff, List.nodup_append] at distinct
  obtain ⟨_, ⟨_, _, hostApart⟩, beforeApart⟩ := distinct
  have noOther : left ++ right = [] := by
    refine List.eq_nil_iff_forall_not_mem.mpr ?_
    intro members isOther
    have inLayerToo : members ∈ left ++ host :: right := by
      rcases List.mem_append.mp isOther with inLeft | inRight
      · exact List.mem_append_left _ inLeft
      · exact List.mem_append_right _ (List.mem_cons_of_mem _ inRight)
    obtain ⟨dependency, present⟩ := List.exists_mem_of_ne_nil members
      (nonempty members inLayerToo)
    have nameIn := List.mem_map_of_mem (f := Dependency.name) present
    have inOthers := (Clustering.mem_namesOf _ _).mpr ⟨members, isOther, nameIn⟩
    have nameInLayer := (Clustering.mem_namesOf _ _).mpr ⟨members, inLayerToo, nameIn⟩
    rcases within dependency.name nameInLayer with inBefore | inHost
    · exact beforeApart _ inBefore _ nameInLayer rfl
    · exact hostApart _ inHost _ inOthers rfl
  obtain ⟨rfl, rfl⟩ := List.append_eq_nil_iff.mp noOther
  rfl

theorem clusterNodes_isLayered (probed : memo.ProbedFrom settings admitted)
    (working : IsWorkingSet settings registry memo entry nodes)
    (sealed : ∀ source target, ¬registry.IsOpen source → memo.Refers source target →
      ¬registry.IsOpen target) :
    Clustering.IsLayered settings memo (fun name => ¬registry.IsOpen name)
      (clusterNodes nodes).byLevel := by
  have named := probed.named
  have groups : ∀ layer ∈ (clusterNodes nodes).byLevel, ∀ members ∈ layer,
      memo.IsGroup members := by
    intro layer member members inLayer
    have isComponent := (mem_components_clusterNodes nodes members).mpr
      (List.mem_flatten.mpr ⟨layer, member, inLayer⟩)
    obtain ⟨names, isName, rfl⟩ := List.mem_map.mp isComponent
    exact membersOf_isGroup named working sealed isName
  have distinct : (namesOf (clusterNodes nodes).byLevel.flatten).Nodup :=
    (namesOf_byLevel_clusterNodes named working).nodup_iff.mpr
      (Graph.strongComponents_isCondensation (referenceGraph nodes)).distinct
  have downward := byLevel_downward named working groups
  refine ⟨groups, distinct, downward, ?_⟩
  intro layer member name inBaseline inLayer
  have nodeOf : ∀ other ∈ namesOf layer, nodes.contains other = true := by
    intro other inside
    obtain ⟨members, isGroup, inMembers⟩ := (Clustering.mem_namesOf layer other).mp inside
    rw [← mem_namesOf_byLevel_iff named working, Clustering.mem_namesOf]
    exact ⟨members, List.mem_flatten.mpr ⟨layer, member, isGroup⟩, inMembers⟩
  obtain ⟨host, hostInLayer, inHost⟩ := (Clustering.mem_namesOf layer name).mp inLayer
  have isEntry := eq_entry_of_baseline probed working inBaseline (nodeOf name inLayer)
  refine ⟨host, ?_⟩
  obtain ⟨before, after, layersAre⟩ := List.append_of_mem member
  rw [layersAre] at groups distinct downward
  rw [List.flatten_append, List.flatten_cons, Clustering.namesOf_append,
    Clustering.namesOf_append, ← List.append_assoc] at distinct
  refine layer_eq_singleton hostInLayer
    (fun members inside => (groups layer (layersAre ▸ member) members inside).nonempty)
    (List.nodup_append.mp distinct).1 ?_
  intro other inside
  have chain := working.nodesReached other (nodeOf other inside)
  rw [← isEntry] at chain
  exact (reached_from_group sealed groups downward hostInLayer inHost chain).resolve_left
    (not_not_intro (working.nodesOpen other (nodeOf other inside)))

end Session

end TexAtlas
