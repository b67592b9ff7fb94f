/-
Resolving files. The layers of a closure are worked on one after the other, each finding
settled what its groups refer to; a resolved file and everything below it end up settled, and
nothing that was settled before is touched.
-/

import TexAtlas.Proofs.Session.Attributed

namespace TexAtlas

open Clustering (namesOf)

variable {settings : Settings} {admitted : File → Prop}

/-- Work on several layers can begin, the first of them first. -/
structure LayersReady (settings : Settings) (session : Session)
    (layers : List (List (List Dependency))) : Prop where
  coherent : Coherent session.memo session.registry (namesOf layers.flatten)
  layered : Clustering.IsLayered settings session.memo
    (fun name => session.registry.isSettled name = true) layers

/-- No baseline file is settled but those of the index. -/
def HostsIndexed (settings : Settings) (session : Session) : Prop :=
  ∀ name ∈ settings.baseline.toList, session.registry.isSettled name = true →
    settings.index.contains name = true

/-- The baseline files that count when a group is looked up: those that are settled. -/
def settledHosts (settings : Settings) (registry : Registry) : List String :=
  settings.baseline.toList.filter registry.isSettled

namespace LayersReady

variable {session : Session} {layer : List (List Dependency)}
  {layers before after : List (List (List Dependency))}

theorem head (ready : LayersReady settings session (layer :: layers)) :
    LayerReady settings session layer (namesOf layers.flatten) := by
  have pendingIs : namesOf (layer :: layers).flatten = namesOf layer ++ namesOf layers.flatten := by
    rw [List.flatten_cons, Clustering.namesOf_append]
  have first : layer ∈ layer :: layers := List.mem_cons_self ..
  refine ⟨?_, ?_, ready.layered.groups layer first, ready.layered.downward.1,
    ready.layered.alone layer first⟩
  · rw [← pendingIs]
    exact ready.coherent
  · rw [← pendingIs]
    exact ready.layered.distinct

theorem isSettled_attributeLevel (ready : LayersReady settings session (layer :: layers))
    (schedule : List Nat) (name : String) :
    (session.attributeLevel settings schedule layer).registry.isSettled name = true ↔
      session.registry.isSettled name = true ∨ name ∈ namesOf layer :=
  (Session.attributeLevel_sound ready.head schedule).2.1.isSettled_iff name

theorem later_attributeLevel (ready : LayersReady settings session (layer :: layers))
    (schedule : List Nat) : Later session (session.attributeLevel settings schedule layer) := by
  obtain ⟨memoIs, done, _⟩ := Session.attributeLevel_sound ready.head schedule
  refine ⟨memoIs.symm ▸ Memo.Within.refl _, ?_⟩
  exact fun name settled => done.agree name (ready.head.not_mem_of_settled settled)

/-- When a layer is done, work on those above can begin. -/
theorem settle (ready : LayersReady settings session (layer :: layers)) {after : Session}
    (memoIs : after.memo = session.memo)
    (done : LayerDone layer session.registry after.registry) :
    LayersReady settings after layers := by
  refine ⟨?_, ?_⟩
  · rw [memoIs]
    exact ready.head.coherent.settle_layer ready.head.distinct ready.head.groups
      ready.head.downward done
  · have layered := ready.layered
    rw [memoIs]
    refine ⟨fun other later => layered.groups other (List.mem_cons_of_mem layer later), ?_, ?_,
      fun other later => layered.alone other (List.mem_cons_of_mem layer later)⟩
    · have distinct := layered.distinct
      rw [List.flatten_cons, Clustering.namesOf_append] at distinct
      exact (List.nodup_append.mp distinct).2.1
    · exact layered.downward.2.mono
        (fun name place => (done.isSettled_iff name).mpr place)

theorem next (ready : LayersReady settings session (layer :: layers)) (schedule : List Nat) :
    LayersReady settings (session.attributeLevel settings schedule layer) layers := by
  obtain ⟨memoIs, done, _⟩ := Session.attributeLevel_sound ready.head schedule
  exact ready.settle memoIs done

theorem attributeLevels (ready : LayersReady settings session (before ++ after)) :
    LayersReady settings (session.attributeLevels settings before) after := by
  induction before generalizing session with
  | nil => exact ready
  | cons layer before ih => exact ih (ready.next _)

theorem later_attributeLevels (ready : LayersReady settings session (before ++ after)) :
    Later session (session.attributeLevels settings before) := by
  induction before generalizing session with
  | nil => exact Later.refl session
  | cons layer before ih =>
      exact (ready.later_attributeLevel _).trans (ih (ready.next _))

theorem memo_attributeLevels (ready : LayersReady settings session (before ++ after)) :
    (session.attributeLevels settings before).memo = session.memo := by
  induction before generalizing session with
  | nil => rfl
  | cons layer before ih =>
      exact (ih (ready.next _)).trans (Session.attributeLevel_sound ready.head _).1

theorem isSettled_attributeLevels (ready : LayersReady settings session (before ++ after))
    (name : String) :
    (session.attributeLevels settings before).registry.isSettled name = true ↔
      session.registry.isSettled name = true ∨ name ∈ namesOf before.flatten := by
  induction before generalizing session with
  | nil => exact ⟨Or.inl, fun place => place.resolve_right List.not_mem_nil⟩
  | cons layer before ih =>
      refine (ih (ready.next _)).trans ?_
      rw [ready.isSettled_attributeLevel, List.flatten_cons, Clustering.namesOf_append,
        List.mem_append, or_assoc]

/-! ### Attribution of a layer -/

theorem attribution_attributeLevel (ready : LayersReady settings session (layer :: layers))
    (hostsIndexed : HostsIndexed settings session) (schedule : List Nat)
    (hosted : BaselineSettled settings session ∨
      ∃ host, IsHost settings host ∧ ∀ name ∈ namesOf layer, Memo.Reaches session.memo host name)
    {members : List Dependency} (isGroup : members ∈ layer) :
    ∃ hosts reached answer, Attribution settings
      (session.attributeLevel settings schedule layer) members hosts reached answer := by
  have later := ready.later_attributeLevel schedule
  obtain ⟨memoIs, done, answers⟩ := Session.attributeLevel_sound ready.head schedule
  obtain ⟨answer, ⟨reached, surveyed, isAnswer⟩, follows⟩ := answers members isGroup
  have inLayer : ∀ name ∈ members.map Dependency.name, name ∈ namesOf layer := fun name inside =>
    (Clustering.mem_namesOf layer name).mpr ⟨members, isGroup, inside⟩
  have outside : ∀ name, session.registry.isSettled name = true →
      name ∉ members.map Dependency.name := fun name settled inside =>
    ready.head.not_mem_of_settled settled (inLayer name inside)
  refine ⟨settledHosts settings session.registry, reached, answer, ?_, ?_, isAnswer, follows, ?_⟩
  · intro name isHost
    obtain ⟨inBaseline, settled⟩ := List.mem_filter.mp isHost
    exact ⟨⟨inBaseline, hostsIndexed name inBaseline settled⟩, later.isSettled settled⟩
  · -- Baseline files that are not settled are not bound either, and lead nowhere.
    have sameRoots : ∀ bound, session.registry.Leads (Component.outwardReferences members ++
        settledHosts settings session.registry) bound ↔
          session.registry.Leads (GroupTask.roots settings members) bound := by
      refine Registry.leads_congr_roots ?_
      intro name isBound
      obtain ⟨bound, held⟩ := (Registry.contains_iff _ name).mp isBound
      have settled := (ready.coherent.holds_of_bound held).1
      simp only [settledHosts, GroupTask.roots, List.mem_append, List.mem_filter, settled,
        and_true, List.contains_eq_mem, Bool.not_eq_true', decide_eq_false_iff_not,
        outside name settled, not_false_eq_true]
    refine surveyed.congr (fun bound => (leads_iff_of_later ready.coherent later ?_ bound).trans
      (sameRoots bound))
    intro name member
    rcases List.mem_append.mp member with outward | isHost
    · exact ready.head.downward members isGroup name outward
    · exact (List.mem_filter.mp isHost).2
  · rcases hosted with settled | ⟨host, isHost, leadsTo⟩
    · exact Or.inl (fun name isHost =>
        List.mem_filter.mpr ⟨isHost.1, settled name isHost⟩)
    · refine Or.inr ⟨host, isHost, fun name inside => ?_⟩
      rw [memoIs]
      exact leadsTo name (inLayer name inside)

theorem attributed_attributeLevel (ready : LayersReady settings session (layer :: layers))
    (hostsIndexed : HostsIndexed settings session) (schedule : List Nat)
    (hosted : BaselineSettled settings session ∨
      ∃ host, IsHost settings host ∧ ∀ name ∈ namesOf layer, Memo.Reaches session.memo host name)
    (attributed : Attributed settings session) :
    Attributed settings (session.attributeLevel settings schedule layer) := by
  refine attributed.later ready.coherent (ready.later_attributeLevel schedule) ?_
  intro members group settled ⟨name, inside, notSettled⟩
  have memoIs := (Session.attributeLevel_sound ready.head schedule).1
  have inLayer : name ∈ namesOf layer := by
    rcases (ready.isSettled_attributeLevel schedule name).mp (settled name inside) with
      already | inLayer
    · rw [notSettled] at already
      cases already
    · exact inLayer
  obtain ⟨others, isGroup, inOthers⟩ := (Clustering.mem_namesOf layer name).mp inLayer
  rw [memoIs] at group
  rw [group.unique (ready.head.groups others isGroup) inside inOthers]
  exact ready.attribution_attributeLevel hostsIndexed schedule hosted isGroup

theorem attributed_attributeLevels (ready : LayersReady settings session (before ++ after))
    (hostsIndexed : ∀ name ∈ settings.baseline.toList, session.registry.isSettled name = true ∨
      name ∈ namesOf before.flatten → settings.index.contains name = true)
    (hosted : BaselineSettled settings session ∨
      ∃ host, IsHost settings host ∧ ∀ name ∈ namesOf before.flatten,
        Memo.Reaches session.memo host name)
    (attributed : Attributed settings session) :
    Attributed settings (session.attributeLevels settings before) := by
  induction before generalizing session with
  | nil => exact attributed
  | cons layer before ih =>
      have inLayers : ∀ name, name ∈ namesOf layer ∨ name ∈ namesOf before.flatten →
          name ∈ namesOf (layer :: before).flatten := by
        intro name place
        rw [List.flatten_cons, Clustering.namesOf_append]
        exact List.mem_append.mpr place
      have indexedNow : HostsIndexed settings session := fun name inBaseline settled =>
        hostsIndexed name inBaseline (Or.inl settled)
      refine ih (ready.next _) ?_ ?_ (ready.attributed_attributeLevel indexedNow _ ?_ attributed)
      · intro name inBaseline place
        refine hostsIndexed name inBaseline ?_
        rw [ready.isSettled_attributeLevel] at place
        rcases place with (settled | inLayer) | inBefore
        · exact Or.inl settled
        · exact Or.inr (inLayers name (Or.inl inLayer))
        · exact Or.inr (inLayers name (Or.inr inBefore))
      · rcases hosted with settled | ⟨host, isHost, leadsTo⟩
        · exact Or.inl (settled.later (ready.later_attributeLevel _))
        · refine Or.inr ⟨host, isHost, fun name inside => ?_⟩
          rw [(Session.attributeLevel_sound ready.head _).1]
          exact leadsTo name (inLayers name (Or.inr inside))
      · rcases hosted with settled | ⟨host, isHost, leadsTo⟩
        · exact Or.inl settled
        · exact Or.inr ⟨host, isHost, fun name inside =>
            leadsTo name (inLayers name (Or.inl inside))⟩

end LayersReady

/-- What a session keeps between operations on admitted files, whatever operations these
are. -/
structure Orderly (settings : Settings) (admitted : File → Prop) (session : Session) : Prop where
  probed : Memo.ProbedFrom settings admitted session.memo
  coherent : Coherent session.memo session.registry []

/-- What a session keeps between operations on files of the index. -/
structure Sound (settings : Settings) (session : Session) : Prop extends
    Orderly settings settings.IsResolved session where
  hostsIndexed : HostsIndexed settings session

theorem Orderly.initial (settings : Settings) (admitted : File → Prop) :
    Orderly settings admitted Session.initial := by
  refine ⟨?_, Coherent.empty⟩
  intro name dependency found
  cases found

theorem Sound.initial (settings : Settings) : Sound settings Session.initial := by
  refine ⟨Orderly.initial settings _, ?_⟩
  intro name _ impossible
  cases impossible

/-- A session whose clustering is about to be worked on. -/
def Session.marked (clustering : Clustering) (session : Session) : Session :=
  { session with registry := Session.markMembers clustering session.registry }

/-- The clustering below an entry, ready to be worked on. -/
structure ClosureReady (settings : Settings) (admitted : File → Prop) (session : Session)
    (entry : String) (clustering : Clustering) (grown : Session) : Prop where
  probed : Memo.ProbedFrom settings admitted grown.memo
  layers : LayersReady settings (grown.marked clustering) clustering.byLevel
  later : Later session (grown.marked clustering)
  settledIs : ∀ name, (grown.marked clustering).registry.isSettled name =
    session.registry.isSettled name
  reached : ∀ name ∈ namesOf clustering.byLevel.flatten, Memo.Reaches grown.memo entry name
  entryInside : entry ∈ namesOf clustering.byLevel.flatten

theorem Orderly.cluster {session grown : Session} (orderly : Orderly settings admitted session)
    (admits : ∀ file, settings.IsResolved file → admitted file) {entry : File}
    (isAdmitted : admitted entry) (isOpen : session.registry.IsOpen entry.name)
    {clustering : Clustering}
    (clustered : session.cluster settings entry = some (clustering, grown)) :
    ClosureReady settings admitted session entry.name clustering grown := by
  unfold Session.cluster at clustered
  rw [Option.map_eq_some_iff] at clustered
  obtain ⟨⟨nodes, discovered⟩, found, same⟩ := clustered
  cases same
  obtain ⟨registryIs, within, probed, working⟩ :=
    Session.discoverClosure_sound orderly.probed admits isAdmitted isOpen found
  have coherent := orderly.coherent.grow within probed.named
  have sealed : ∀ source target, ¬session.registry.IsOpen source →
      Memo.Refers grown.memo source target → ¬session.registry.IsOpen target := by
    intro source target notOpen refers
    rw [coherent.not_open_iff] at notOpen ⊢
    exact coherent.closed source target notOpen refers
  have layered := Session.clusterNodes_isLayered probed working sealed
  have isNode := Session.mem_namesOf_byLevel_iff probed.named working
  have namesAre : ∀ name, name ∈ namesOf (Session.clusterNodes nodes).byLevel.flatten ↔
      name ∈ namesOf (Session.clusterNodes nodes).components := by
    intro name
    rw [Clustering.mem_namesOf, Clustering.mem_namesOf]
    simp only [Session.mem_components_clusterNodes]
  have marked : Coherent grown.memo
      (grown.marked (Session.clusterNodes nodes)).registry
      (namesOf (Session.clusterNodes nodes).byLevel.flatten) := by
    unfold Session.marked
    rw [registryIs]
    exact coherent.mark namesAre
      (fun name member => working.nodesOpen name ((isNode name).mp member))
  have settledIs : ∀ name, (grown.marked (Session.clusterNodes nodes)).registry.isSettled name =
      session.registry.isSettled name := by
    intro name
    by_cases member : name ∈ namesOf (Session.clusterNodes nodes).byLevel.flatten
    · rw [marked.not_settled_of_pending member]
      exact (working.nodesOpen name ((isNode name).mp member)).2.symm
    · rw [← registryIs]
      exact (Session.agree_markMembers grown.registry
        (fun inComponents => member ((namesAre name).mpr inComponents))).isSettled
  refine ⟨probed, ⟨marked, ?_⟩, ⟨within, ?_⟩, settledIs, ?_, ?_⟩
  · refine ⟨layered.groups, layered.distinct, layered.downward.mono ?_, layered.alone⟩
    intro name notOpen
    rw [settledIs]
    exact (coherent.not_open_iff name).mp notOpen
  · intro name settled
    have absent : name ∉ namesOf (Session.clusterNodes nodes).components := by
      intro member
      have notSettled := (working.nodesOpen name ((isNode name).mp ((namesAre name).mpr member))).2
      rw [settled] at notSettled
      cases notSettled
    rw [← registryIs]
    exact Session.agree_markMembers grown.registry absent
  · intro name member
    exact working.nodesReached name ((isNode name).mp member)
  · exact (isNode entry.name).mpr working.entryHeld

theorem Sound.cluster {session grown : Session} (sound : Sound settings session) {entry : File}
    (isResolved : entry = settings.index.resolve entry.name)
    (isOpen : session.registry.IsOpen entry.name) {clustering : Clustering}
    (clustered : session.cluster settings entry = some (clustering, grown)) :
    ClosureReady settings settings.IsResolved session entry.name clustering grown :=
  sound.toOrderly.cluster (fun _ isResolved => isResolved) isResolved isOpen clustered

/-! ### Operations that only add -/

/-- What an operation that attributes files makes of a session. New files are settled only if
they are reached from the roots of the operation. -/
structure Advance (settings : Settings) (roots : String → Prop) (before after : Session) :
    Prop where
  sound : Sound settings after
  later : Later before after
  origin : ∀ name, after.registry.isSettled name = true →
    before.registry.isSettled name = true ∨
      ∃ root, roots root ∧ Memo.Reaches after.memo root name
  attributed : Attributed settings before → Attributed settings after

namespace Advance

variable {roots wider : String → Prop} {before middle after : Session}

theorem refl (sound : Sound settings before) : Advance settings roots before before :=
  ⟨sound, Later.refl before, fun _ settled => Or.inl settled, fun attributed => attributed⟩

theorem mono (advance : Advance settings roots before after)
    (wide : ∀ root, roots root → wider root) : Advance settings wider before after := by
  refine ⟨advance.sound, advance.later, ?_, advance.attributed⟩
  intro name settled
  rcases advance.origin name settled with already | ⟨root, isRoot, leadsTo⟩
  · exact Or.inl already
  · exact Or.inr ⟨root, wide root isRoot, leadsTo⟩

theorem trans (first : Advance settings roots before middle)
    (second : Advance settings roots middle after) : Advance settings roots before after := by
  refine ⟨second.sound, first.later.trans second.later, ?_,
    fun attributed => second.attributed (first.attributed attributed)⟩
  intro name settled
  rcases second.origin name settled with earlier | ⟨root, isRoot, leadsTo⟩
  · rcases first.origin name earlier with already | ⟨root, isRoot, leadsTo⟩
    · exact Or.inl already
    · exact Or.inr ⟨root, isRoot, leadsTo.mono second.later.within⟩
  · exact Or.inr ⟨root, isRoot, leadsTo⟩

/-- A fold of advances is an advance, after which every item is done with. -/
theorem foldlM {α : Type} {step : Session → α → Option Session} {items : List α}
    {done : α → Session → Prop} (sound : Sound settings before)
    (stable : ∀ item earlier later, Later earlier later → done item earlier → done item later)
    (each : ∀ item ∈ items, ∀ session next, Sound settings session →
      step session item = some next → Advance settings roots session next ∧ done item next)
    (ran : items.foldlM step before = some after) :
    Advance settings roots before after ∧ ∀ item ∈ items, done item after := by
  induction items generalizing before with
  | nil =>
      cases ran
      exact ⟨refl sound, fun _ impossible => absurd impossible List.not_mem_nil⟩
  | cons item items ih =>
      rw [List.foldlM_cons, Option.bind_eq_bind, Option.bind_eq_some_iff] at ran
      obtain ⟨next, stepped, rest⟩ := ran
      obtain ⟨first, isDone⟩ := each item (List.mem_cons_self ..) before next sound stepped
      obtain ⟨others, allDone⟩ := ih first.sound
        (fun other later => each other (List.mem_cons_of_mem item later)) rest
      refine ⟨first.trans others, ?_⟩
      intro other member
      rcases List.mem_cons.mp member with rfl | later
      · exact stable other next after others.later isDone
      · exact allDone other later

end Advance

variable {before after : Session} {found : Option Instance} {file : File}

namespace ClosureReady

variable {clustering : Clustering} {grown : Session} {entry : String}

theorem hostsIndexed (ready : ClosureReady settings admitted before entry clustering grown)
    (sound : Sound settings before) (indexed : settings.index.contains entry = true) :
    ∀ name ∈ settings.baseline.toList, (grown.marked clustering).registry.isSettled name = true ∨
      name ∈ namesOf clustering.byLevel.flatten → settings.index.contains name = true := by
  intro name inBaseline place
  rcases place with already | inside
  · rw [ready.settledIs] at already
    exact sound.hostsIndexed name inBaseline already
  · rcases (ready.reached name inside).cases_tail with same | ⟨_, _, refers⟩
    · rw [same]
      exact indexed
    · exact absurd inBaseline (ready.probed.target_not_baseline refers)

theorem allLayers (ready : ClosureReady settings admitted before entry clustering grown) :
    LayersReady settings (grown.marked clustering) (clustering.byLevel ++ []) := by
  rw [List.append_nil]
  exact ready.layers

theorem memo_attributed (ready : ClosureReady settings admitted before entry clustering grown) :
    (grown.attributeClustering settings clustering).memo = grown.memo :=
  ready.allLayers.memo_attributeLevels

theorem isSettled_attributed
    (ready : ClosureReady settings admitted before entry clustering grown) (name : String) :
    (grown.attributeClustering settings clustering).registry.isSettled name = true ↔
      before.registry.isSettled name = true ∨ name ∈ namesOf clustering.byLevel.flatten := by
  rw [← ready.settledIs]
  exact ready.allLayers.isSettled_attributeLevels name

theorem orderly (ready : ClosureReady settings admitted before entry clustering grown) :
    Orderly settings admitted (grown.attributeClustering settings clustering) := by
  refine ⟨?_, ready.allLayers.attributeLevels.coherent⟩
  rw [ready.memo_attributed]
  exact ready.probed

theorem sound (ready : ClosureReady settings settings.IsResolved before entry clustering grown)
    (wasSound : Sound settings before) (indexed : settings.index.contains entry = true) :
    Sound settings (grown.attributeClustering settings clustering) := by
  refine ⟨ready.orderly, ?_⟩
  intro name inBaseline settled
  refine ready.hostsIndexed wasSound indexed name inBaseline ?_
  rw [ready.settledIs]
  exact (ready.isSettled_attributed name).mp settled

/-- Working on the closure of an open file settles it. -/
theorem advance (ready : ClosureReady settings settings.IsResolved before entry clustering grown)
    (wasSound : Sound settings before) (indexed : settings.index.contains entry = true)
    (hosted : BaselineSettled settings before ∨ entry ∈ settings.baseline.toList) :
    Advance settings (· = entry) before (grown.attributeClustering settings clustering) ∧
      (grown.attributeClustering settings clustering).registry.isSettled entry = true := by
  refine ⟨⟨ready.sound wasSound indexed, ready.later.trans ready.allLayers.later_attributeLevels,
    ?_, ?_⟩, (ready.isSettled_attributed entry).mpr (Or.inr ready.entryInside)⟩
  · intro name settled
    rcases (ready.isSettled_attributed name).mp settled with already | inside
    · exact Or.inl already
    · refine Or.inr ⟨entry, rfl, ?_⟩
      rw [ready.memo_attributed]
      exact ready.reached name inside
  · intro attributed
    refine ready.allLayers.attributed_attributeLevels (ready.hostsIndexed wasSound indexed) ?_ ?_
    · rcases hosted with settled | inBaseline
      · exact Or.inl (settled.later ready.later)
      · exact Or.inr ⟨entry, ⟨inBaseline, indexed⟩, ready.reached⟩
    · refine attributed.later wasSound.coherent ready.later ?_
      intro members _ settled ⟨name, inside, notSettled⟩
      have impossible := settled name inside
      rw [ready.settledIs, notSettled] at impossible
      cases impossible

end ClosureReady

/-- To resolve the closure of a file is to do nothing, or to work on its clustering. -/
theorem Orderly.resolveClosure_cases (orderly : Orderly settings admitted before)
    (admits : ∀ file, settings.IsResolved file → admitted file) (isAdmitted : admitted file)
    (ran : before.resolveClosure settings file = some (found, after)) :
    found = after.registry.get? file.name ∧
      (after = before ∧ before.registry.isSettled file.name = true ∨
        ∃ clustering grown, ClosureReady settings admitted before file.name clustering grown ∧
          after = grown.attributeClustering settings clustering) := by
  unfold Session.resolveClosure at ran
  split at ran
  · rename_i known held
    cases ran
    exact ⟨held.symm, Or.inl ⟨rfl, (orderly.coherent.holds_of_bound held).1⟩⟩
  · rename_i unbound
    split at ran
    · rename_i skipped
      cases ran
      have isSkipped := (Registry.isSkipped_iff _ _).mp skipped
      exact ⟨unbound.symm, Or.inl ⟨rfl, (Registry.isSettled_iff _ _).mpr (Or.inr isSkipped)⟩⟩
    · rename_i notSkipped
      rw [Option.map_eq_some_iff] at ran
      obtain ⟨⟨clustering, grown⟩, clustered, same⟩ := ran
      cases same
      have isOpen := orderly.coherent.open_of_unbound unbound (Bool.not_eq_true _ ▸ notSkipped)
      exact ⟨rfl, Or.inr ⟨clustering, grown,
        orderly.cluster admits isAdmitted isOpen clustered, rfl⟩⟩

/-- Resolving the closure of a file settles the file, leaves alone what was settled before, and
answers with the component of the file. -/
theorem Orderly.resolveClosure (orderly : Orderly settings admitted before)
    (admits : ∀ file, settings.IsResolved file → admitted file) (isAdmitted : admitted file)
    (ran : before.resolveClosure settings file = some (found, after)) :
    Orderly settings admitted after ∧ Later before after ∧
      after.registry.isSettled file.name = true ∧ found = after.registry.get? file.name := by
  obtain ⟨answer, ⟨rfl, settled⟩ | ⟨clustering, grown, ready, rfl⟩⟩ :=
    orderly.resolveClosure_cases admits isAdmitted ran
  · exact ⟨orderly, Later.refl after, settled, answer⟩
  · exact ⟨ready.orderly, ready.later.trans ready.allLayers.later_attributeLevels,
      (ready.isSettled_attributed file.name).mpr (Or.inr ready.entryInside), answer⟩

/-- To resolve the closure of a file of the index is to do nothing, or to work on its
clustering. -/
theorem Sound.resolveClosure_cases (sound : Sound settings before)
    (indexed : file ∈ settings.index.files)
    (ran : before.resolveClosure settings file = some (found, after)) :
    found = after.registry.get? file.name ∧
      (after = before ∧ before.registry.isSettled file.name = true ∨
        ∃ clustering grown,
          ClosureReady settings settings.IsResolved before file.name clustering grown ∧
            after = grown.attributeClustering settings clustering) :=
  sound.toOrderly.resolveClosure_cases (fun _ isResolved => isResolved)
    (FileIndex.resolve_of_mem indexed).symm ran

theorem contains_of_mem_index (indexed : file ∈ settings.index.files) :
    settings.index.contains file.name = true :=
  (FileIndex.contains_iff _ _).mpr ⟨file, FileIndex.lookup_of_mem indexed⟩

/-- Resolving the closure of a file settles the file and answers with its component. -/
theorem resolveClosure_advance (sound : Sound settings before)
    (indexed : file ∈ settings.index.files)
    (hosted : BaselineSettled settings before ∨ file.name ∈ settings.baseline.toList)
    (ran : before.resolveClosure settings file = some (found, after)) :
    Advance settings (· = file.name) before after ∧
      after.registry.isSettled file.name = true ∧ found = after.registry.get? file.name := by
  obtain ⟨answer, ⟨rfl, settled⟩ | ⟨clustering, grown, ready, rfl⟩⟩ :=
    sound.resolveClosure_cases indexed ran
  · exact ⟨Advance.refl sound, settled, answer⟩
  · obtain ⟨advance, settled⟩ := ready.advance sound (contains_of_mem_index indexed) hosted
    exact ⟨advance, settled, answer⟩

/-- Resolving a baseline file settles it if the index knows it. -/
theorem resolveBaselineFile_advance (sound : Sound settings before) {name : String}
    (inBaseline : name ∈ settings.baseline.toList)
    (stepped : before.resolveBaselineFile settings name = some after) :
    Advance settings (IsHost settings) before after ∧
      (settings.index.contains name = true → after.registry.isSettled name = true) := by
  unfold Session.resolveBaselineFile at stepped
  split at stepped
  · rename_i settled
    cases stepped
    exact ⟨Advance.refl sound, fun _ => settled⟩
  · split at stepped
    · rename_i missing
      cases stepped
      refine ⟨Advance.refl sound, fun indexed => ?_⟩
      obtain ⟨file, known⟩ := (FileIndex.contains_iff _ _).mp indexed
      rw [missing] at known
      cases known
    · rename_i file known
      rw [Option.map_eq_some_iff] at stepped
      obtain ⟨⟨found, resolved⟩, resolves, same⟩ := stepped
      cases same
      obtain ⟨member, named⟩ := FileIndex.mem_of_lookup known
      obtain ⟨advance, settled, _⟩ := resolveClosure_advance sound member
        (Or.inr (named ▸ inBaseline)) resolves
      rw [named] at advance settled
      refine ⟨advance.mono ?_, fun _ => settled⟩
      rintro root rfl
      exact ⟨inBaseline, (FileIndex.contains_iff _ _).mpr ⟨file, known⟩⟩

theorem resolveBaseline_advance (sound : Sound settings before)
    (ran : before.resolveBaseline settings = some after) :
    Advance settings (IsHost settings) before after ∧ BaselineSettled settings after := by
  have stable : ∀ name (earlier later : Session), Later earlier later →
      (settings.index.contains name = true → earlier.registry.isSettled name = true) →
        settings.index.contains name = true → later.registry.isSettled name = true :=
    fun _ _ _ isLater wasDone indexed => isLater.isSettled (wasDone indexed)
  obtain ⟨advance, allDone⟩ := Advance.foldlM sound stable
    (fun _ inBaseline _ _ sessionSound stepped =>
      resolveBaselineFile_advance sessionSound inBaseline stepped) ran
  exact ⟨advance, fun name isHost => allDone name isHost.1 isHost.2⟩

theorem resolve_advance (sound : Sound settings before) (indexed : file ∈ settings.index.files)
    (ran : before.resolve settings file = some (found, after)) :
    Advance settings (fun root => IsHost settings root ∨ root = file.name) before after ∧
      after.registry.isSettled file.name = true ∧ found = after.registry.get? file.name ∧
      BaselineSettled settings after := by
  unfold Session.resolve at ran
  rw [Option.bind_eq_some_iff] at ran
  obtain ⟨ready, based, resolves⟩ := ran
  obtain ⟨first, settled⟩ := resolveBaseline_advance sound based
  obtain ⟨second, fileSettled, answer⟩ :=
    resolveClosure_advance first.sound indexed (Or.inl settled) resolves
  exact ⟨(first.mono fun _ => Or.inl).trans (second.mono fun _ => Or.inr), fileSettled, answer,
    settled.later second.later⟩

theorem indexFile_advance (sound : Sound settings before) (indexed : file ∈ settings.index.files)
    (ran : before.indexFile settings file = some after) :
    Advance settings (fun root => IsHost settings root ∨ root = file.name) before after ∧
      after.registry.isSettled file.name = true := by
  unfold Session.indexFile at ran
  split at ran
  · rename_i known
    cases ran
    refine ⟨Advance.refl sound, ?_⟩
    rcases Bool.or_eq_true_iff.mp known with isBound | settled
    · obtain ⟨bound, held⟩ := (Registry.contains_iff _ _).mp isBound
      exact (sound.coherent.holds_of_bound held).1
    · exact settled
  · rw [Option.map_eq_some_iff] at ran
    obtain ⟨⟨found, resolved⟩, resolves, same⟩ := ran
    cases same
    obtain ⟨advance, settled, _⟩ := resolve_advance sound indexed resolves
    exact ⟨advance, settled⟩

/-- What indexing a list of files starts from: the baseline and the files themselves. -/
def IsIndexRoot (settings : Settings) (files : List File) (name : String) : Prop :=
  IsHost settings name ∨ name ∈ files.map File.name

theorem indexFiles_advance {files : List File} (sound : Sound settings before)
    (indexed : ∀ file ∈ files, file ∈ settings.index.files)
    (ran : files.foldlM (Session.indexFile settings) before = some after) :
    Advance settings (IsIndexRoot settings files) before after ∧
      ∀ file ∈ files, after.registry.isSettled file.name = true := by
  have stable : ∀ (file : File) (earlier later : Session), Later earlier later →
      earlier.registry.isSettled file.name = true → later.registry.isSettled file.name = true :=
    fun _ _ _ isLater settled => isLater.isSettled settled
  refine Advance.foldlM sound stable ?_ ran
  intro file member session next sessionSound stepped
  obtain ⟨advance, settled⟩ := indexFile_advance sessionSound (indexed file member) stepped
  refine ⟨advance.mono ?_, settled⟩
  rintro root (isHost | rfl)
  · exact Or.inl isHost
  · exact Or.inr (List.mem_map_of_mem member)

end TexAtlas
