/-
Sessions in lockstep. Two sessions whose settings differ in the pool and in the schedule only
probe the same files, work on the same clusterings, and give the groups of every level the
same answers, because a task looks up nothing but what was settled before its level. So they
stay alike, whatever order their tasks take their steps in.
-/

import TexAtlas.Proofs.Session.Agreement
import TexAtlas.Proofs.Session.Runs

namespace TexAtlas

open Clustering (namesOf)

/-- The same settings under another pool and another schedule. -/
def Settings.under (settings : Settings) (pool : TaskPool)
    (schedule : List (List String) → List Nat) : Settings :=
  { settings with pool := pool, schedule := schedule }

/-! ### Related results -/

section

variable {α β γ δ ι : Type} {related : α → β → Prop} {further : γ → δ → Prop}
  {left : Option α} {right : Option β}

theorem rel_bind {next : α → Option γ} {other : β → Option δ}
    (first : Option.Rel related left right)
    (each : ∀ before after, related before after →
      Option.Rel further (next before) (other after)) :
    Option.Rel further (left.bind next) (right.bind other) := by
  cases first with
  | none => exact .none
  | some both => exact each _ _ both

theorem rel_map {next : α → γ} {other : β → δ} (first : Option.Rel related left right)
    (each : ∀ before after, left = some before → right = some after → related before after →
      further (next before) (other after)) :
    Option.Rel further (left.map next) (right.map other) := by
  cases first with
  | none => exact .none
  | some both => exact .some (each _ _ rfl rfl both)

theorem map_eq_of_rel {next : α → γ} {other : β → γ} (first : Option.Rel related left right)
    (each : ∀ before after, related before after → other after = next before) :
    right.map other = left.map next := by
  cases first with
  | none => rfl
  | some both => exact congrArg some (each _ _ both)

theorem exists_left_of_rel {after : β} (both : Option.Rel related left right)
    (held : right = some after) : ∃ before, left = some before ∧ related before after := by
  cases both with
  | none => cases held
  | some both =>
      cases held
      exact ⟨_, rfl, both⟩

theorem rel_foldlM {items : List ι} {step : α → ι → Option α} {other : β → ι → Option β}
    {before : α} {after : β} (start : related before after)
    (each : ∀ item ∈ items, ∀ one two, related one two →
      Option.Rel related (step one item) (other two item)) :
    Option.Rel related (items.foldlM step before) (items.foldlM other after) := by
  induction items generalizing before after with
  | nil => exact .some start
  | cons item items ih =>
      rw [List.foldlM_cons, List.foldlM_cons]
      refine rel_bind (each item (List.mem_cons_self ..) before after start) ?_
      exact fun one two both => ih both (fun later member =>
        each later (List.mem_cons_of_mem item member))

end

variable {settings : Settings} {pool : TaskPool} {schedule : List (List String) → List Nat}
  {left right : Session}

/-! ### Discovery -/

namespace Session

theorem memo_probeWave_under (steady : settings.Steady) (memo : right.memo = left.memo)
    (files : List File) :
    (right.probeWave (settings.under pool schedule) files).memo =
      (left.probeWave settings files).memo := by
  have pending : right.pendingFiles files = left.pendingFiles files := by
    rw [pendingFiles, pendingFiles, memo]
  have otherSteady : (settings.under pool schedule).Steady := ⟨steady.engine, steady.read⟩
  rw [memo_probeWave_of_steady steady, memo_probeWave_of_steady otherSteady, pending, memo]
  rfl

theorem nextWave_congr (nodes : NameMap Dependency) (wave : List Dependency)
    {registry other : Registry} (alike : ∀ name, registry.AlikeOn other name) :
    nextWave nodes other wave = nextWave nodes registry wave := by
  have same : needsWork nodes other = needsWork nodes registry := by
    funext file
    rw [needsWork, needsWork, (alike file.name).contains, (alike file.name).isSettled]
  rw [nextWave, nextWave, same]

/-- Two discoveries that found the same nodes and remember the same, and left the registries
of their sessions as they were. -/
def SameFinding (left right : Session)
    (found otherFound : NameMap Dependency × Session) : Prop :=
  otherFound.1 = found.1 ∧ otherFound.2.memo = found.2.memo ∧
    found.2.registry = left.registry ∧ otherFound.2.registry = right.registry

theorem grow_under (steady : settings.Steady) (memo : right.memo = left.memo)
    (alike : ∀ name, left.registry.AlikeOn right.registry name) (waves : Nat)
    (waiting : List File) (nodes : NameMap Dependency) :
    Option.Rel (SameFinding left right) (left.grow settings waves waiting nodes)
      (right.grow (settings.under pool schedule) waves waiting nodes) := by
  induction waves generalizing waiting nodes left right with
  | zero =>
      cases waiting with
      | nil => exact .some ⟨rfl, memo, rfl, rfl⟩
      | cons file files => exact .none
  | succ waves ih =>
      cases waiting with
      | nil => exact .some ⟨rfl, memo, rfl, rfl⟩
      | cons file files =>
          have probed : (right.probeWave (settings.under pool schedule) (file :: files)).memo =
              (left.probeWave settings (file :: files)).memo :=
            memo_probeWave_under steady memo (file :: files)
          have wave : (right.probeWave (settings.under pool schedule)
                (file :: files)).remembered (file :: files) =
              (left.probeWave settings (file :: files)).remembered (file :: files) := by
            rw [remembered, remembered, probed]
          unfold grow
          simp only [wave]
          rw [registry_probeWave, registry_probeWave, nextWave_congr _ _ alike]
          exact ih probed alike _ _

theorem cluster_under (steady : settings.Steady) (memo : right.memo = left.memo)
    (alike : ∀ name, left.registry.AlikeOn right.registry name) (entry : File) :
    Option.Rel (fun one two => two.1 = one.1 ∧ two.2.memo = one.2.memo ∧
        one.2.registry = left.registry ∧ two.2.registry = right.registry)
      (left.cluster settings entry) (right.cluster (settings.under pool schedule) entry) := by
  refine rel_map (grow_under steady memo alike settings.waveLimit [entry] .empty) ?_
  rintro ⟨nodes, grown⟩ ⟨otherNodes, otherGrown⟩ _ _ ⟨rfl, rest⟩
  exact ⟨rfl, rest⟩

theorem alike_markMembers (clustering : Clustering) {registry other : Registry}
    (alike : ∀ name, registry.AlikeOn other name) (name : String) :
    (markMembers clustering registry).AlikeOn (markMembers clustering other) name := by
  refine ⟨?_, ?_⟩
  · rw [state_markMembers, state_markMembers, (alike name).state]
  · rw [get?_markMembers, get?_markMembers, (alike name).component]

end Session

/-! ### Attribution -/

namespace LayersReady

variable {layer : List (List Dependency)} {layers before after : List (List (List Dependency))}

/-- Sessions that are alike before a level are alike after it, whatever order the tasks of the
level take their steps in. -/
theorem alike_attributeLevel (steady : settings.Steady)
    (leftReady : LayersReady settings left (layer :: layers))
    (rightReady : LayersReady (settings.under pool schedule) right (layer :: layers))
    (alike : ∀ name, left.registry.AlikeOn right.registry name) (order otherOrder : List Nat)
    (name : String) :
    (left.attributeLevel settings order layer).registry.AlikeOn
      (right.attributeLevel (settings.under pool schedule) otherOrder layer).registry name := by
  obtain ⟨_, done, answers⟩ := Session.attributeLevel_sound leftReady.head order
  obtain ⟨_, otherDone, otherAnswers⟩ := Session.attributeLevel_sound rightReady.head otherOrder
  by_cases inLayer : name ∈ namesOf layer
  · obtain ⟨members, isGroup, inside⟩ := (Clustering.mem_namesOf layer name).mp inLayer
    obtain ⟨answer, ⟨reached, surveyed, isAnswer⟩, follows⟩ := answers members isGroup
    obtain ⟨otherAnswer, ⟨others, otherSurveyed, otherIs⟩, otherFollows⟩ :=
      otherAnswers members isGroup
    have everywhere : Registry.AlikeWithin (fun _ => True) left.registry right.registry :=
      ⟨fun other _ => alike other, fun _ _ _ _ _ _ => trivial⟩
    have counted : ∀ component, component ∈ reached ↔ component ∈ others := by
      intro component
      rw [surveyed component, otherSurveyed component]
      exact everywhere.component_iff (fun _ _ => trivial) (fun _ => Iff.rfl) component
    have asSettings : IsAnswer settings members others otherAnswer := otherIs
    rw [← isAnswer.unique steady asSettings counted] at otherFollows
    exact follows.alike otherFollows inside
  · exact (done.agree name inLayer).alike.symm.trans
      ((alike name).trans (otherDone.agree name inLayer).alike)

theorem alike_attributeLevels (steady : settings.Steady)
    (leftReady : LayersReady settings left (before ++ after))
    (rightReady : LayersReady (settings.under pool schedule) right (before ++ after))
    (alike : ∀ name, left.registry.AlikeOn right.registry name) :
    ∀ name, (left.attributeLevels settings before).registry.AlikeOn
      (right.attributeLevels (settings.under pool schedule) before).registry name := by
  induction before generalizing left right with
  | nil => exact alike
  | cons layer before ih =>
      exact ih (leftReady.next _) (rightReady.next _)
        (leftReady.alike_attributeLevel steady rightReady alike _ _)

end LayersReady

/-! ### Whole operations -/

/-- Two sessions under settings that differ in pool and schedule, with the same knowledge and
alike on every file. -/
structure Lockstep (settings : Settings) (pool : TaskPool)
    (schedule : List (List String) → List Nat) (left right : Session) : Prop where
  leftOrderly : Orderly settings anyFile left
  rightOrderly : Orderly (settings.under pool schedule) anyFile right
  memo : right.memo = left.memo
  alike : ∀ name, left.registry.AlikeOn right.registry name

namespace Lockstep

theorem refl (orderly : Orderly settings anyFile left) (pool : TaskPool)
    (schedule : List (List String) → List Nat) : Lockstep settings pool schedule left left :=
  ⟨orderly, ⟨orderly.probed, orderly.coherent⟩, rfl, fun name => Registry.AlikeOn.refl _ name⟩

theorem attributeClustering (steady : settings.Steady)
    (lockstep : Lockstep settings pool schedule left right) {file : File}
    (isOpen : left.registry.IsOpen file.name) (otherOpen : right.registry.IsOpen file.name)
    {clustering : Clustering} {grown otherGrown : Session}
    (clustered : left.cluster settings file = some (clustering, grown))
    (otherClustered : right.cluster (settings.under pool schedule) file =
      some (clustering, otherGrown))
    (memo : otherGrown.memo = grown.memo) (registryIs : grown.registry = left.registry)
    (otherRegistryIs : otherGrown.registry = right.registry) :
    Lockstep settings pool schedule (grown.attributeClustering settings clustering)
      (otherGrown.attributeClustering (settings.under pool schedule) clustering) := by
  have admits : ∀ file, settings.IsResolved file → anyFile file := fun _ _ => trivial
  have ready := lockstep.leftOrderly.cluster admits trivial isOpen clustered
  have otherReady := lockstep.rightOrderly.cluster admits trivial otherOpen otherClustered
  refine ⟨ready.orderly, otherReady.orderly, ?_, ?_⟩
  · rw [ready.memo_attributed, otherReady.memo_attributed]
    exact memo
  · refine ready.allLayers.alike_attributeLevels steady otherReady.allLayers ?_
    refine Session.alike_markMembers clustering ?_
    intro name
    rw [registryIs, otherRegistryIs]
    exact lockstep.alike name

theorem resolveClosure (steady : settings.Steady)
    (lockstep : Lockstep settings pool schedule left right) (file : File) :
    Option.Rel (fun one two => Lockstep settings pool schedule one.2 two.2)
      (left.resolveClosure settings file)
      (right.resolveClosure (settings.under pool schedule) file) := by
  have alike := lockstep.alike file.name
  unfold Session.resolveClosure
  cases held : left.registry.get? file.name with
  | some bound =>
      obtain ⟨twin, twinHeld, _⟩ := alike.exists_twin held
      rw [twinHeld]
      exact .some lockstep
  | none =>
      have unbound : right.registry.get? file.name = none := by
        rw [← Registry.contains_eq_false_iff, alike.contains, Registry.contains_eq_false_iff]
        exact held
      rw [unbound]
      simp only [alike.isSkipped]
      cases skipped : left.registry.isSkipped file.name with
      | true => exact .some lockstep
      | false =>
          have isOpen := lockstep.leftOrderly.coherent.open_of_unbound held skipped
          have otherOpen := lockstep.rightOrderly.coherent.open_of_unbound unbound
            (alike.isSkipped.trans skipped)
          simp only [Bool.false_eq_true, if_false]
          refine rel_map (Session.cluster_under steady lockstep.memo lockstep.alike file) ?_
          rintro ⟨clustering, grown⟩ ⟨_, otherGrown⟩ clustered otherClustered
            ⟨rfl, memo, registryIs, otherRegistryIs⟩
          exact lockstep.attributeClustering steady isOpen otherOpen clustered otherClustered memo
            registryIs otherRegistryIs

theorem resolveBaseline (steady : settings.Steady)
    (lockstep : Lockstep settings pool schedule left right) :
    Option.Rel (Lockstep settings pool schedule) (left.resolveBaseline settings)
      (right.resolveBaseline (settings.under pool schedule)) := by
  refine rel_foldlM lockstep ?_
  intro name _ one two both
  unfold Session.resolveBaselineFile
  rw [(both.alike name).isSettled]
  split
  · exact .some both
  · cases found : settings.index.lookup name with
    | none =>
        have missing : (settings.under pool schedule).index.lookup name = none := found
        rw [missing]
        exact .some both
    | some file =>
        have known : (settings.under pool schedule).index.lookup name = some file := found
        rw [known]
        exact rel_map (both.resolveClosure steady file) (fun _ _ _ _ done => done)

theorem resolve (steady : settings.Steady)
    (lockstep : Lockstep settings pool schedule left right) (file : File) :
    Option.Rel (fun one two => Lockstep settings pool schedule one.2 two.2)
      (left.resolve settings file) (right.resolve (settings.under pool schedule) file) :=
  rel_bind (lockstep.resolveBaseline steady) (fun _ _ both => both.resolveClosure steady file)

theorem indexFile (steady : settings.Steady)
    (lockstep : Lockstep settings pool schedule left right) (file : File) :
    Option.Rel (Lockstep settings pool schedule) (left.indexFile settings file)
      (right.indexFile (settings.under pool schedule) file) := by
  unfold Session.indexFile
  rw [(lockstep.alike file.name).contains, (lockstep.alike file.name).isSettled]
  split
  · exact .some lockstep
  · exact rel_map (lockstep.resolve steady file) (fun _ _ _ _ done => done)

theorem components (lockstep : Lockstep settings pool schedule left right) :
    right.registry.components = left.registry.components :=
  lockstep.leftOrderly.coherent.components_congr lockstep.rightOrderly.coherent lockstep.alike

theorem report (lockstep : Lockstep settings pool schedule left right) (files : Nat) :
    right.report files = left.report files := by
  have components := congrArg List.length lockstep.components
  rw [Registry.components, Registry.components, List.length_map, List.length_map] at components
  rw [Session.report, Session.report, components, Session.probed, Session.probed, lockstep.memo,
    Registry.skippedFiles_congr lockstep.alike]

theorem index (steady : settings.Steady)
    (lockstep : Lockstep settings pool schedule left right) (files : List File) :
    Option.Rel (fun one two => two.1 = one.1 ∧ Lockstep settings pool schedule one.2 two.2)
      (left.index settings files) (right.index (settings.under pool schedule) files) := by
  have folded : Option.Rel (Lockstep settings pool schedule)
      ((Session.targetsAmong files).foldlM (Session.indexFile settings) left)
      ((Session.targetsAmong files).foldlM
        (Session.indexFile (settings.under pool schedule)) right) :=
    rel_foldlM lockstep (fun file _ _ _ both => both.indexFile steady file)
  exact rel_map folded (fun _ _ _ _ both => ⟨both.report _, both⟩)

end Lockstep

end TexAtlas
