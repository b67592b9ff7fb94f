/-
The moments of a run, and what is settled at each of them. Between two closures a single file
may be probed, or the next closure is clustered; its levels are entered one after the other,
and the tasks of a level take their steps in any order until all are finished. Whenever a task
looks up what its group reaches, all of that is settled, and it stays as it is.
-/

import TexAtlas.Proofs.Session.Runs

namespace TexAtlas

/-- A moment of a run. -/
inductive Moment where
  /-- No task is at work; these levels are still to come. -/
  | between (session : Session) (levels : List (List (List Dependency)))
  /-- The tasks of a level are at work; the levels above it are still to come. -/
  | working (session : Session) (tasks : List GroupTask) (levels : List (List (List Dependency)))

namespace Moment

def session : Moment → Session
  | between session _ => session
  | working session _ _ => session

def tasks : Moment → List GroupTask
  | between _ _ => []
  | working _ tasks _ => tasks

def registry (moment : Moment) : Registry :=
  moment.session.registry

/-- A moment between two closures. -/
def idle (session : Session) : Moment :=
  between session []

/-- What may happen next. Which task takes the next step is left open. -/
inductive Step (settings : Settings) : Moment → Moment → Prop where
  | probe (session : Session) (file : File) :
      Step settings (idle session) (idle (session.dependency settings file).2)
  | begin {session grown : Session} {file : File} {clustering : Clustering} :
      session.registry.get? file.name = none → session.registry.isSkipped file.name = false →
        session.cluster settings file = some (clustering, grown) →
          Step settings (idle session) (between (grown.marked clustering) clustering.byLevel)
  | enter (session : Session) (level : List (List Dependency))
      (levels : List (List (List Dependency))) :
      Step settings (between session (level :: levels))
        (working session (level.map GroupTask.start) levels)
  | work (session : Session) (tasks : List GroupTask) (levels : List (List (List Dependency)))
      (number : Nat) :
      Step settings (working session tasks levels)
        (working (session.stepTask settings number tasks).2
          (session.stepTask settings number tasks).1 levels)
  | settle {session : Session} {tasks : List GroupTask}
      {levels : List (List (List Dependency))} : (∀ task ∈ tasks, task.phase.IsFinished) →
        Step settings (working session tasks levels) (between (session.settleTasks tasks) levels)

/-- Steps one after the other. -/
def Trail (settings : Settings) : Moment → Moment → Prop :=
  Relation.ReflTransGen (Step settings)

variable {settings : Settings} {before after moment later : Moment} {session : Session}
  {levels : List (List (List Dependency))} {tasks : List GroupTask}

/-! ### What holds at every moment -/

/-- Work on the levels to come can begin, and the tasks at work keep what their phases
promise. -/
def InOrder (settings : Settings) : Moment → Prop
  | between session levels =>
    Memo.ProbedFrom settings anyFile session.memo ∧ LayersReady settings session levels
  | working session tasks levels =>
    ∃ base layer, Memo.ProbedFrom settings anyFile base.memo ∧
      LayersReady settings base (layer :: levels) ∧ AtWork settings base layer tasks session

theorem inOrder_idle_iff :
    InOrder settings (idle session) ↔ Orderly settings anyFile session := by
  constructor
  · rintro ⟨probed, ready⟩
    exact ⟨probed, ready.coherent⟩
  · rintro ⟨probed, coherent⟩
    refine ⟨probed, coherent, ?_⟩
    exact ⟨fun _ impossible => (by cases impossible), List.nodup_nil, trivial,
      fun _ impossible => (by cases impossible)⟩

theorem Step.inOrder (step : Step settings before after) (inOrder : InOrder settings before) :
    InOrder settings after := by
  cases step with
  | probe session file =>
      have orderly := inOrder_idle_iff.mp inOrder
      exact inOrder_idle_iff.mpr (orderly.dependency trivial).2.2
  | begin unbound notSkipped clustered =>
      have orderly := inOrder_idle_iff.mp inOrder
      have isOpen := orderly.coherent.open_of_unbound unbound notSkipped
      have ready := orderly.cluster (fun _ _ => trivial) trivial isOpen clustered
      exact ⟨ready.probed, ready.layers⟩
  | enter session level levels =>
      obtain ⟨probed, ready⟩ := inOrder
      exact ⟨session, level, probed, ready, AtWork.start ready.head⟩
  | work session tasks levels number =>
      obtain ⟨base, layer, probed, ready, work⟩ := inOrder
      exact ⟨base, layer, probed, ready, work.step ready.head number⟩
  | @settle session tasks levels finished =>
      obtain ⟨base, layer, probed, ready, work⟩ := inOrder
      have memoIs : (session.settleTasks tasks).memo = base.memo := by
        rw [Session.settleTasks_eq]
        exact work.memoIs
      refine ⟨memoIs ▸ probed, ready.settle memoIs (work.layerDone ready.head finished)⟩

theorem Trail.inOrder (trail : Trail settings before after) (inOrder : InOrder settings before) :
    InOrder settings after := by
  induction trail with
  | refl => exact inOrder
  | tail _ step ih => exact step.inOrder ih

/-! ### What is settled stays as it is -/

/-- A file is settled and belongs to no task at work. -/
def Rests (moment : Moment) (name : String) : Prop :=
  moment.registry.isSettled name = true ∧ ∀ task ∈ moment.tasks, name ∉ task.names

theorem Step.rests (step : Step settings before after) (inOrder : InOrder settings before)
    {name : String} (rests : before.Rests name) :
    before.registry.AgreesOn after.registry name ∧ after.Rests name := by
  -- The state is the same afterwards, so the file is settled still.
  suffices agree : before.registry.AgreesOn after.registry name ∧
      ∀ task ∈ after.tasks, name ∉ task.names from
    ⟨agree.1, agree.1.isSettled.trans rests.1, agree.2⟩
  cases step with
  | probe session file =>
      obtain ⟨registryIs, _⟩ := (inOrder_idle_iff.mp inOrder).dependency trivial
      refine ⟨?_, fun _ impossible => (by cases impossible)⟩
      change session.registry.AgreesOn (session.dependency settings file).2.registry name
      rw [registryIs]
      exact ⟨rfl, rfl⟩
  | begin unbound notSkipped clustered =>
      have orderly := inOrder_idle_iff.mp inOrder
      have isOpen := orderly.coherent.open_of_unbound unbound notSkipped
      have ready := orderly.cluster (fun _ _ => trivial) trivial isOpen clustered
      exact ⟨ready.later.keeps name rests.1, fun _ impossible => (by cases impossible)⟩
  | enter session level levels =>
      refine ⟨⟨rfl, rfl⟩, ?_⟩
      intro task member inside
      obtain ⟨members, isGroup, rfl⟩ := List.mem_map.mp member
      exact inOrder.2.head.not_mem_of_settled rests.1
        ((Clustering.mem_namesOf level name).mpr ⟨members, isGroup, inside⟩)
  | work session tasks levels number =>
      obtain ⟨base, layer, _, ready, work⟩ := inOrder
      change session.registry.AgreesOn (session.stepTask settings number tasks).2.registry name ∧
        ∀ task ∈ (session.stepTask settings number tasks).1, name ∉ task.names
      cases held : tasks[number]? with
      | none =>
          rw [AtWork.stepTask_of_missing held]
          exact ⟨⟨rfl, rfl⟩, rests.2⟩
      | some task =>
          have member := List.mem_of_getElem? held
          have sound := work.taskStep ready.head member
          rw [AtWork.stepTask_of_held held]
          refine ⟨sound.agree name (rests.2 task member), ?_⟩
          intro other inSet
          rcases work.mem_set ready.head held inSet with rfl | ⟨isOther, _⟩
          · rw [GroupTask.names, sound.members]
            exact rests.2 task member
          · exact rests.2 other isOther
  | @settle session tasks levels finished =>
      have absent : name ∉ Session.failedNames tasks := by
        intro inFailed
        obtain ⟨task, member, _, inside⟩ := Session.mem_failedNames.mp inFailed
        exact rests.2 task member inside
      refine ⟨?_, fun _ impossible => (by cases impossible)⟩
      change session.registry.AgreesOn (session.settleTasks tasks).registry name
      rw [Session.settleTasks_eq]
      exact ⟨Registry.get?_skip _ _ _, (Registry.state_skip _ _ _).trans (if_neg absent)⟩

theorem Trail.rests (trail : Trail settings before after) (inOrder : InOrder settings before)
    {name : String} (rests : before.Rests name) :
    before.registry.AgreesOn after.registry name ∧ after.Rests name := by
  induction trail with
  | refl => exact ⟨⟨rfl, rfl⟩, rests⟩
  | tail trail step ih =>
      obtain ⟨agree, restsThere⟩ := ih
      obtain ⟨next, restsNext⟩ := step.rests (Trail.inOrder trail inOrder) restsThere
      exact ⟨⟨next.1.trans agree.1, next.2.trans agree.2⟩, restsNext⟩

/-! ### What a group reaches while its task is at work -/

section

variable {task : GroupTask}

theorem InOrder.rests_of_settled_before {base : Session} {layer : List (List Dependency)}
    (ready : LayersReady settings base (layer :: levels))
    (work : AtWork settings base layer tasks session) {name : String}
    (settled : base.registry.isSettled name = true) :
    (working session tasks levels).Rests name := by
  have outside := ready.head.not_mem_of_settled settled
  refine ⟨(work.agree name outside).isSettled.trans settled, ?_⟩
  intro task member inside
  exact outside ((Clustering.mem_namesOf layer name).mpr
    ⟨task.members, work.mem_layer member, inside⟩)

/-- The members of a task are a whole group of files that load each other. -/
theorem InOrder.isGroup (inOrder : InOrder settings moment) (member : task ∈ moment.tasks) :
    Memo.IsGroup moment.session.memo task.members := by
  cases moment with
  | between session levels => cases member
  | working session tasks levels =>
      obtain ⟨base, layer, _, ready, work⟩ := inOrder
      have group := ready.head.groups task.members (work.mem_layer member)
      rw [← work.memoIs] at group
      exact group

theorem InOrder.rests_of_outward (inOrder : InOrder settings moment) (member : task ∈ moment.tasks)
    {name : String} (outward : name ∈ Component.outwardReferences task.members) :
    moment.Rests name := by
  cases moment with
  | between session levels => cases member
  | working session tasks levels =>
      obtain ⟨base, layer, _, ready, work⟩ := inOrder
      exact rests_of_settled_before ready work
        (ready.head.downward task.members (work.mem_layer member) name outward)

theorem InOrder.rests_of_reached (inOrder : InOrder settings moment) (member : task ∈ moment.tasks)
    {bound : Instance}
    (reached : bound ∈ moment.registry.reachable (GroupTask.roots settings task.members))
    {name : String}
    (inside : name ∈ bound.component.fileNames ∨ name ∈ bound.component.references) :
    moment.Rests name := by
  cases moment with
  | between session levels => cases member
  | working session tasks levels =>
      obtain ⟨base, layer, _, ready, work⟩ := inOrder
      have isGroup := work.mem_layer member
      have leads := (Registry.mem_reachable_iff (work.registry_numbered ready.head) _ bound).mp
        reached
      have coherent := ready.head.coherent
      -- What is led to was led to when the level began, so it is bound under a settled name.
      obtain ⟨other, otherHeld⟩ :=
        ((ready.head.leads_iff isGroup work.agree bound).mp leads).exists_name
      refine rests_of_settled_before ready work ?_
      rcases inside with isFile | isReference
      · have fileHeld := (coherent.boundExactly other bound otherHeld name).mpr isFile
        exact (coherent.holds_of_bound fileHeld).1
      · exact coherent.settled_of_reference otherHeld isReference

end

/-! ### The moment of a look-up -/

section

variable {names : List String} {registry : Registry}

theorem surveyed_of_step {task : GroupTask}
    (noted : .surveyed names registry ∈ (task.step settings session).2.journal) :
    .surveyed names registry ∈ session.journal ∨
      task.phase = .waiting ∧ names = task.names ∧ registry = session.registry := by
  obtain ⟨members, phase⟩ := task
  cases phase with
  | waiting =>
      cases members with
      | nil => exact Or.inl noted
      | cons lead rest =>
          rw [GroupTask.step_waiting_eq] at noted
          rcases List.mem_append.mp noted with before | new
          · exact Or.inl before
          · cases List.mem_singleton.mp new
            exact Or.inr ⟨rfl, rfl, rfl⟩
  | surveyed reached =>
      rw [GroupTask.step_surveyed_eq] at noted
      exact Or.inl noted
  | scanned candidates =>
      cases members with
      | nil => exact Or.inl noted
      | cons lead rest =>
          rw [GroupTask.step_scanned_eq] at noted
          rcases List.mem_append.mp noted with before | new
          · exact Or.inl before
          · cases List.mem_singleton.mp new
  | marking classification unmarked =>
      cases unmarked with
      | nil =>
          rw [GroupTask.step_marking_nil_eq] at noted
          exact Or.inl noted
      | cons name unmarked =>
          rw [GroupTask.step_marking_cons_eq] at noted
          exact Or.inl noted
  | binding bound unbound =>
      cases unbound with
      | nil =>
          rw [GroupTask.step_binding_nil_eq] at noted
          exact Or.inl noted
      | cons name unbound =>
          rw [GroupTask.step_binding_cons_eq] at noted
          exact Or.inl noted
  | sealing bound unsealed =>
      cases unsealed with
      | nil =>
          rw [GroupTask.step_sealing_nil_eq] at noted
          exact Or.inl noted
      | cons name unsealed =>
          rw [GroupTask.step_sealing_cons_eq] at noted
          exact Or.inl noted
  | finished result =>
      rw [GroupTask.step_finished_eq] at noted
      exact Or.inl noted

theorem surveyed_of_grow {waves : Nat} {waiting : List File} {nodes result : NameMap Dependency}
    {final : Session} (grown : Session.grow settings waves waiting nodes session =
      some (result, final))
    (noted : .surveyed names registry ∈ final.journal) :
    .surveyed names registry ∈ session.journal := by
  induction waves generalizing waiting nodes session with
  | zero =>
      cases waiting with
      | nil =>
          cases grown
          exact noted
      | cons file files => cases grown
  | succ waves ih =>
      cases waiting with
      | nil =>
          cases grown
          exact noted
      | cons file files =>
          rcases List.mem_append.mp (ih grown) with before | listed
          · exact before
          · obtain ⟨_, _, impossible⟩ := List.mem_map.mp listed
            cases impossible

theorem surveyed_of_dependency {file : File}
    (noted : .surveyed names registry ∈ (session.dependency settings file).2.journal) :
    .surveyed names registry ∈ session.journal := by
  have listed : .surveyed names registry ∈ session.journal ++ [.listed file] →
      .surveyed names registry ∈ session.journal := by
    intro member
    rcases List.mem_append.mp member with before | new
    · exact before
    · cases List.mem_singleton.mp new
  unfold Session.dependency at noted
  split at noted
  · exact noted
  · split at noted
    · exact listed noted
    · exact listed noted

/-- A look-up is noted when a waiting task takes its first step, with the registry of that
moment. -/
theorem Step.surveyed (step : Step settings before after)
    (noted : .surveyed names registry ∈ after.session.journal) :
    .surveyed names registry ∈ before.session.journal ∨
      registry = before.registry ∧
        ∃ task ∈ before.tasks, task.phase = .waiting ∧ names = task.names := by
  cases step with
  | probe session file => exact Or.inl (surveyed_of_dependency noted)
  | @begin session grown file clustering _ _ clustered =>
      obtain ⟨⟨nodes, final⟩, discovered, same⟩ := Option.map_eq_some_iff.mp clustered
      cases same
      exact Or.inl (surveyed_of_grow discovered noted)
  | enter session level levels => exact Or.inl noted
  | work session tasks levels number =>
      change .surveyed names registry ∈ (session.stepTask settings number tasks).2.journal at noted
      cases held : tasks[number]? with
      | none =>
          rw [AtWork.stepTask_of_missing held] at noted
          exact Or.inl noted
      | some task =>
          rw [AtWork.stepTask_of_held held] at noted
          rcases surveyed_of_step noted with earlier | ⟨waiting, namesAre, registryIs⟩
          · exact Or.inl earlier
          · exact Or.inr ⟨registryIs, task, List.mem_of_getElem? held, waiting, namesAre⟩
  | @settle session tasks levels finished =>
      refine Or.inl ?_
      change .surveyed names registry ∈ (session.settleTasks tasks).journal at noted
      rw [Session.settleTasks_eq] at noted
      exact noted

theorem Trail.surveyed (trail : Trail settings before after)
    (notYet : .surveyed names registry ∉ before.session.journal)
    (noted : .surveyed names registry ∈ after.session.journal) :
    ∃ moment, Trail settings before moment ∧ Trail settings moment after ∧
      moment.registry = registry ∧
        ∃ task ∈ moment.tasks, task.phase = .waiting ∧ task.names = names := by
  induction trail with
  | refl => exact absurd noted notYet
  | @tail last next trail step ih =>
      rcases step.surveyed noted with earlier | ⟨rfl, task, member, waiting, rfl⟩
      · obtain ⟨moment, first, rest, isRegistry, isTask⟩ := ih earlier
        exact ⟨moment, first, rest.tail step, isRegistry, isTask⟩
      · exact ⟨last, trail, .single step, rfl, task, member, waiting, rfl⟩

end

/-! ### A run is a trail -/

theorem trail_followSchedule (schedule : List Nat) :
    Trail settings (working session tasks levels)
      (working (session.followSchedule settings schedule tasks).2
        (session.followSchedule settings schedule tasks).1 levels) := by
  induction schedule generalizing session tasks with
  | nil => exact .refl
  | cons number schedule ih => exact .head (.work session tasks levels number) ih

theorem trail_attributeLevel {layer : List (List Dependency)}
    (ready : LayersReady settings session (layer :: levels)) (schedule : List Nat) :
    Trail settings (between session (layer :: levels))
      (between (session.attributeLevel settings schedule layer) levels) := by
  have worked : Trail settings (working session (layer.map GroupTask.start) levels)
      (working (session.runTasks settings schedule layer).2
        (session.runTasks settings schedule layer).1 levels) := by
    rw [Session.runTasks_eq_followSchedule]
    exact trail_followSchedule _
  have finished := (AtWork.runTasks ready.head schedule).2
  exact (Relation.ReflTransGen.head (.enter session layer levels) worked).tail (.settle finished)

theorem trail_attributeLevels (ready : LayersReady settings session levels) :
    Trail settings (between session levels) (idle (session.attributeLevels settings levels)) := by
  induction levels generalizing session with
  | nil => exact .refl
  | cons layer levels ih => exact (trail_attributeLevel ready _).trans (ih (ready.next _))

theorem trail_part {admitted : File → Prop} {final : Session}
    (orderly : Orderly settings anyFile session)
    (part : Session.Part settings admitted False session final) :
    Trail settings (idle session) (idle final) := by
  cases part with
  | @closure _ file found isAdmitted ran =>
      unfold Session.resolveClosure at ran
      split at ran
      · cases ran
        exact .refl
      · rename_i unbound
        split at ran
        · cases ran
          exact .refl
        · rename_i notSkipped
          rw [Bool.not_eq_true] at notSkipped
          obtain ⟨⟨clustering, grown⟩, clustered, same⟩ := Option.map_eq_some_iff.mp ran
          cases same
          have isOpen := orderly.coherent.open_of_unbound unbound notSkipped
          have ready := orderly.cluster (fun _ _ => trivial) trivial isOpen clustered
          exact .head (.begin unbound notSkipped clustered) (trail_attributeLevels ready.layers)
  | dependency isAdmitted => exact .single (.probe session _)
  | applyOverrides entries impossible => exact impossible.elim

theorem trail_parts {admitted : File → Prop} {final : Session}
    (orderly : Orderly settings anyFile session)
    (parts : session.Parts settings admitted False final) :
    Trail settings (idle session) (idle final) := by
  induction parts with
  | refl => exact .refl
  | tail _ part ih =>
      have inOrder := Trail.inOrder ih (inOrder_idle_iff.mpr orderly)
      exact ih.trans (trail_part (inOrder_idle_iff.mp inOrder) part)

/-- A run without overrides, whatever it is called on and however the engine answers, is a
trail. -/
theorem trail_run {operations : List Operation} {final : Session}
    (noOverride : ∀ operation ∈ operations, operation.isOverride = false)
    (ran : Session.initial.run settings operations = some final) :
    Trail settings (idle Session.initial) (idle final) := by
  have parts : Session.initial.Parts settings anyFile False final := by
    refine Session.Parts.run (fun _ _ => trivial) (fun _ _ _ _ => trivial) ?_ ran
    intro operation member isOverride
    rw [noOverride operation member] at isOverride
    cases isOverride
  exact trail_parts (Orderly.initial settings anyFile) parts

/-- A file is registered or skipped, and no later moment sees another state or another
component of it. -/
def Fixed (settings : Settings) (moment : Moment) (name : String) : Prop :=
  moment.registry.isSettled name = true ∧
    ∀ later, Trail settings moment later → moment.registry.AgreesOn later.registry name

theorem InOrder.fixed {name : String} (inOrder : InOrder settings moment)
    (rests : moment.Rests name) : Fixed settings moment name :=
  ⟨rests.1, fun _ trail => (trail.rests inOrder rests).1⟩

end Moment

open Moment in
/-- Dependencies come first. Whenever a run looked up what a group reaches, everything that the
group refers to was settled at that moment, and so was everything that the components found
there name or refer to; from then on none of it changed. -/
theorem dependencies_settled_first {settings : Settings} {operations : List Operation}
    {session : Session} (noOverride : ∀ operation ∈ operations, operation.isOverride = false)
    (ran : Session.initial.run settings operations = some session) {names : List String}
    {registry : Registry} (noted : .surveyed names registry ∈ session.journal) :
    ∃ moment, Trail settings (idle Session.initial) moment ∧
      Trail settings moment (idle session) ∧ moment.registry = registry ∧
      ∃ task ∈ moment.tasks, task.phase = .waiting ∧ task.names = names ∧
        Memo.IsGroup moment.session.memo task.members ∧
        (∀ name ∈ Component.outwardReferences task.members, Fixed settings moment name) ∧
        ∀ bound ∈ registry.reachable (GroupTask.roots settings task.members),
          (∀ name ∈ bound.component.references, Fixed settings moment name) ∧
          ∀ name ∈ bound.component.fileNames, Fixed settings moment name := by
  have trail := trail_run noOverride ran
  obtain ⟨moment, first, rest, rfl, task, member, waiting, namesAre⟩ :=
    trail.surveyed List.not_mem_nil noted
  have inOrder := first.inOrder (inOrder_idle_iff.mpr (Orderly.initial settings anyFile))
  refine ⟨moment, first, rest, rfl, task, member, waiting, namesAre, inOrder.isGroup member,
    ?_, ?_⟩
  · exact fun name outward => inOrder.fixed (inOrder.rests_of_outward member outward)
  · intro bound reached
    exact ⟨fun name inside => inOrder.fixed (inOrder.rests_of_reached member reached
        (Or.inr inside)),
      fun name inside => inOrder.fixed (inOrder.rests_of_reached member reached (Or.inl inside))⟩

/-- The registry in which a session looked up what a group reaches. -/
def Session.surveyOf (session : Session) (names : List String) : Option Registry :=
  session.journal.findSome? (fun event => match event with
    | .surveyed members registry => if members = names then some registry else none
    | _ => none)

theorem Session.noted_of_surveyOf {session : Session} {names : List String} {registry : Registry}
    (found : session.surveyOf names = some registry) :
    .surveyed names registry ∈ session.journal := by
  obtain ⟨event, member, isSurvey⟩ := List.exists_of_findSome?_eq_some found
  cases event with
  | listed file => cases isSurvey
  | classified lead candidates => cases isSurvey
  | surveyed members other =>
      change (if members = names then some other else none) = some registry at isSurvey
      split at isSurvey
      · rename_i same
        cases isSurvey
        exact same ▸ member
      · cases isSurvey

open Moment in
/-- The package that the knot of `a.sty` and `b.sty` loads is settled when the knot is. -/
theorem sample_dependencies_settled_first :
    ∃ session registry, Session.initial.run Settings.sample Operation.sample = some session ∧
      .surveyed ["a.sty", "b.sty"] registry ∈ session.journal ∧
      registry.state "c.sty" = .registered ∧
      ∃ moment, moment.registry = registry ∧ Trail Settings.sample moment (idle session) ∧
        ∃ task ∈ moment.tasks, task.names = ["a.sty", "b.sty"] ∧
          ∀ name ∈ Component.outwardReferences task.members,
            Fixed Settings.sample moment name := by
  have known : ((Session.initial.run Settings.sample Operation.sample).bind (fun session =>
      session.surveyOf ["a.sty", "b.sty"])).map (fun registry => registry.state "c.sty") =
        some .registered := by
    decide +kernel
  obtain ⟨registry, found, registered⟩ := Option.map_eq_some_iff.mp known
  obtain ⟨session, ran, surveyed⟩ := Option.bind_eq_some_iff.mp found
  have noted := Session.noted_of_surveyOf surveyed
  obtain ⟨moment, _, rest, isRegistry, task, member, _, namesAre, _, outward, _⟩ :=
    dependencies_settled_first Operation.noOverride_sample ran noted
  exact ⟨session, registry, ran, noted, registered, moment, isRegistry, rest, task, member,
    namesAre, outward⟩

end TexAtlas
