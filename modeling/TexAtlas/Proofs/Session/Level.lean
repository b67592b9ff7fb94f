/-
The tasks of one level at work together. Their groups have no file in common, and what a
group refers to was settled before the level began, so whatever the order of the steps, each
task finds the registry as if the others did not exist. In the end every group is settled
according to an answer that does not depend on the order.
-/

import TexAtlas.Proofs.Session.Task

namespace TexAtlas

open Clustering (namesOf)

namespace Clustering

theorem apart_of_nodup {layer : List (List Dependency)} (distinct : (namesOf layer).Nodup)
    {first second : Nat} {members others : List Dependency}
    (firstHeld : layer[first]? = some members) (secondHeld : layer[second]? = some others)
    (different : first ≠ second) {name : String}
    (inside : name ∈ members.map Dependency.name) : name ∉ others.map Dependency.name := by
  rw [namesOf, List.map_flatten, List.nodup_flatten, List.pairwise_map] at distinct
  obtain ⟨firstWithin, rfl⟩ := List.getElem?_eq_some_iff.mp firstHeld
  obtain ⟨secondWithin, rfl⟩ := List.getElem?_eq_some_iff.mp secondHeld
  have apart := List.pairwise_iff_getElem.mp distinct.2
  rcases Nat.lt_or_gt_of_ne different with less | more
  · exact apart first second firstWithin secondWithin less inside
  · exact fun inOther => apart second first secondWithin firstWithin more inOther inside

end Clustering

/-- Everything is in place for work on a layer: what its groups refer to is settled, its own
files and those of the layers above are pending. -/
structure LayerReady (settings : Settings) (session : Session) (layer : List (List Dependency))
    (rest : List String) : Prop where
  coherent : Coherent session.memo session.registry (namesOf layer ++ rest)
  distinct : (namesOf layer ++ rest).Nodup
  groups : ∀ members ∈ layer, Memo.IsGroup session.memo members
  downward : ∀ members ∈ layer, ∀ name ∈ Component.outwardReferences members,
    session.registry.isSettled name = true
  alone : ∀ name ∈ settings.baseline.toList, name ∈ namesOf layer → ∃ members, layer = [members]

namespace LayerReady

variable {settings : Settings} {session : Session} {layer : List (List Dependency)}
  {rest : List String} (ready : LayerReady settings session layer rest)

include ready

theorem namesOf_nodup : (namesOf layer).Nodup :=
  (List.nodup_append.mp ready.distinct).1

theorem not_mem_of_settled {name : String} (settled : session.registry.isSettled name = true) :
    name ∉ namesOf layer := by
  intro inLayer
  rw [ready.coherent.not_settled_of_pending (List.mem_append_left rest inLayer)] at settled
  cases settled

theorem roots_outside {members : List Dependency} (isGroup : members ∈ layer) :
    ∀ name ∈ GroupTask.roots settings members, name ∉ namesOf layer := by
  intro name member
  obtain ⟨place, outside⟩ := List.mem_filter.mp member
  simp only [Bool.not_eq_true', List.contains_eq_mem, decide_eq_false_iff_not] at outside
  rcases List.mem_append.mp place with outward | inBaseline
  · exact ready.not_mem_of_settled (ready.downward members isGroup name outward)
  · intro inLayer
    obtain ⟨only, rfl⟩ := ready.alone name inBaseline inLayer
    rw [List.mem_singleton.mp isGroup] at outside
    rw [Clustering.namesOf_cons] at inLayer
    rcases List.mem_append.mp inLayer with inOnly | impossible
    · exact outside inOnly
    · cases impossible

/-- A registry that differs in the files of the layer only leads to the same instances. -/
theorem leads_iff {registry : Registry} {members : List Dependency} (isGroup : members ∈ layer)
    (agree : ∀ name, name ∉ namesOf layer → session.registry.AgreesOn registry name)
    (bound : Instance) : registry.Leads (GroupTask.roots settings members) bound ↔
      session.registry.Leads (GroupTask.roots settings members) bound := by
  refine Registry.leads_iff_of_agree (ready.roots_outside isGroup)
    (fun name outside => (agree name outside).1) ?_ bound
  intro name found _ held reference member
  exact ready.not_mem_of_settled (ready.coherent.settled_of_reference held member)

end LayerReady

/-- The tasks of a layer in the middle of their work. -/
structure AtWork (settings : Settings) (base : Session) (layer : List (List Dependency))
    (tasks : List GroupTask) (session : Session) : Prop where
  membersAre : tasks.map GroupTask.members = layer
  memoIs : session.memo = base.memo
  agree : ∀ name, name ∉ namesOf layer → base.registry.AgreesOn session.registry name
  next_le : base.registry.next ≤ session.registry.next
  stages : ∀ task ∈ tasks,
    Stage settings base.registry session.registry task.members task.phase
  numbered : ∀ left ∈ tasks, ∀ right ∈ tasks, ∀ first second,
    left.phase.instance? = some first → right.phase.instance? = some second →
      first.number = second.number → first = second

namespace AtWork

variable {settings : Settings} {base session : Session} {layer : List (List Dependency)}
  {rest : List String} {tasks : List GroupTask}

theorem start (ready : LayerReady settings base layer rest) :
    AtWork settings base layer (layer.map GroupTask.start) base := by
  refine ⟨?_, rfl, fun _ _ => ⟨rfl, rfl⟩, Nat.le_refl _, ?_, ?_⟩
  · rw [List.map_map]
    exact List.map_id layer
  · intro task member
    obtain ⟨members, isGroup, rfl⟩ := List.mem_map.mp member
    refine .waiting ?_
    intro name inside
    exact ready.coherent.waits name (List.mem_append_left rest
      ((Clustering.mem_namesOf layer name).mpr ⟨members, isGroup, inside⟩))
  · intro left member right _ first second made
    obtain ⟨members, _, rfl⟩ := List.mem_map.mp member
    cases made

theorem mem_layer (work : AtWork settings base layer tasks session) {task : GroupTask}
    (member : task ∈ tasks) : task.members ∈ layer := by
  rw [← work.membersAre]
  exact List.mem_map_of_mem member

theorem exists_task (work : AtWork settings base layer tasks session) {name : String}
    (inLayer : name ∈ namesOf layer) : ∃ task ∈ tasks, name ∈ task.names := by
  obtain ⟨members, isGroup, inside⟩ := (Clustering.mem_namesOf layer name).mp inLayer
  rw [← work.membersAre] at isGroup
  obtain ⟨task, member, rfl⟩ := List.mem_map.mp isGroup
  exact ⟨task, member, inside⟩

theorem registry_numbered (ready : LayerReady settings base layer rest)
    (work : AtWork settings base layer tasks session) : session.registry.Numbered := by
  have made : ∀ name ∈ namesOf layer, ∀ bound, session.registry.get? name = some bound →
      ∃ task ∈ tasks, task.phase.instance? = some bound ∧ base.registry.next ≤ bound.number := by
    intro name inLayer bound held
    obtain ⟨task, member, inside⟩ := work.exists_task inLayer
    have stage := work.stages task member
    have isInstance := stage.instance_of_held inside held
    exact ⟨task, member, isInstance, (stage.number_of_instance isInstance).1⟩
  have old : ∀ name, name ∉ namesOf layer → ∀ bound, session.registry.get? name = some bound →
      base.registry.get? name = some bound ∧ bound.number < base.registry.next := by
    intro name outside bound held
    rw [(work.agree name outside).1] at held
    exact ⟨held, ready.coherent.below name bound held⟩
  intro left right first second leftHeld rightHeld sameNumber
  by_cases leftInLayer : left ∈ namesOf layer
  · obtain ⟨leftTask, leftMember, leftMade, leftNew⟩ := made left leftInLayer first leftHeld
    by_cases rightInLayer : right ∈ namesOf layer
    · obtain ⟨rightTask, rightMember, rightMade, _⟩ := made right rightInLayer second rightHeld
      exact work.numbered leftTask leftMember rightTask rightMember first second leftMade
        rightMade sameNumber
    · have rightOld := (old right rightInLayer second rightHeld).2
      omega
  · obtain ⟨leftBase, leftOld⟩ := old left leftInLayer first leftHeld
    by_cases rightInLayer : right ∈ namesOf layer
    · obtain ⟨_, _, _, rightNew⟩ := made right rightInLayer second rightHeld
      omega
    · exact ready.coherent.numbered left right first second leftBase
        (old right rightInLayer second rightHeld).1 sameNumber

/-- One task takes a step as if it were alone. -/
theorem taskStep (ready : LayerReady settings base layer rest)
    (work : AtWork settings base layer tasks session) {task : GroupTask} (member : task ∈ tasks) :
    GroupTask.StepSound settings base.registry task session (task.step settings session) := by
  have isGroup := work.mem_layer member
  have group := ready.groups task.members isGroup
  exact GroupTask.step_sound group.nonempty group.ascending (work.registry_numbered ready)
    (ready.leads_iff isGroup work.agree) work.next_le (work.stages task member)

/-- After a step of one task every task is that one or shares no file with it. -/
theorem mem_set (ready : LayerReady settings base layer rest)
    (work : AtWork settings base layer tasks session) {number : Nat} {task next other : GroupTask}
    (held : tasks[number]? = some task) (inSet : other ∈ tasks.set number next) :
    other = next ∨ other ∈ tasks ∧ ∀ name ∈ other.names, name ∉ task.names := by
  have groupAt : ∀ {place : Nat} {found : GroupTask}, tasks[place]? = some found →
      layer[place]? = some found.members := by
    intro place found at_place
    rw [← work.membersAre, List.getElem?_map, at_place]
    rfl
  obtain ⟨place, found⟩ := List.mem_iff_getElem?.mp inSet
  by_cases same : number = place
  · subst same
    rw [List.getElem?_set_self', held] at found
    exact Or.inl (Option.some.inj found).symm
  · rw [List.getElem?_set_ne same] at found
    refine Or.inr ⟨List.mem_of_getElem? found, ?_⟩
    intro name inside
    exact Clustering.apart_of_nodup ready.namesOf_nodup (groupAt found) (groupAt held)
      (fun equal => same equal.symm) inside

theorem numbered_set (ready : LayerReady settings base layer rest)
    (work : AtWork settings base layer tasks session) {number : Nat} {task next : GroupTask}
    (held : tasks[number]? = some task)
    (made : ∀ bound, next.phase.instance? = some bound →
      task.phase.instance? = some bound ∨ session.registry.next ≤ bound.number) :
    ∀ left ∈ tasks.set number next, ∀ right ∈ tasks.set number next, ∀ first second,
      left.phase.instance? = some first → right.phase.instance? = some second →
        first.number = second.number → first = second := by
  have known : ∀ other ∈ tasks.set number next, ∀ bound, other.phase.instance? = some bound →
      (∃ before ∈ tasks, before.phase.instance? = some bound) ∨
        other = next ∧ session.registry.next ≤ bound.number := by
    intro other inSet bound isMade
    rcases work.mem_set ready held inSet with rfl | ⟨isOther, _⟩
    · rcases made bound isMade with already | new
      · exact Or.inl ⟨task, List.mem_of_getElem? held, already⟩
      · exact Or.inr ⟨rfl, new⟩
    · exact Or.inl ⟨other, isOther, isMade⟩
  have below : ∀ before ∈ tasks, ∀ bound, before.phase.instance? = some bound →
      bound.number < session.registry.next := fun before isTask bound isMade =>
    ((work.stages before isTask).number_of_instance isMade).2
  intro left leftIn right rightIn first second leftMade rightMade sameNumber
  rcases known left leftIn first leftMade with ⟨leftOld, leftTask, leftHad⟩ | ⟨leftIs, leftNew⟩
  · rcases known right rightIn second rightMade with
      ⟨rightOld, rightTask, rightHad⟩ | ⟨_, rightNew⟩
    · exact work.numbered leftOld leftTask rightOld rightTask first second leftHad rightHad
        sameNumber
    · have leftBelow := below leftOld leftTask first leftHad
      omega
  · rcases known right rightIn second rightMade with
      ⟨rightOld, rightTask, rightHad⟩ | ⟨rightIs, _⟩
    · have rightBelow := below rightOld rightTask second rightHad
      omega
    · rw [leftIs] at leftMade
      rw [rightIs, leftMade] at rightMade
      exact Option.some.inj rightMade

theorem stepTask_of_held {number : Nat} {task : GroupTask} (held : tasks[number]? = some task) :
    session.stepTask settings number tasks =
      (tasks.set number (task.step settings session).1, (task.step settings session).2) := by
  unfold Session.stepTask
  rw [held]

theorem stepTask_of_missing {number : Nat} (missing : tasks[number]? = none) :
    session.stepTask settings number tasks = (tasks, session) := by
  unfold Session.stepTask
  rw [missing]

/-- A step of any task keeps the tasks at work. -/
theorem step (ready : LayerReady settings base layer rest)
    (work : AtWork settings base layer tasks session) (number : Nat) :
    AtWork settings base layer (session.stepTask settings number tasks).1
      (session.stepTask settings number tasks).2 := by
  cases held : tasks[number]? with
  | none =>
      rw [stepTask_of_missing held]
      exact work
  | some task =>
      have member := List.mem_of_getElem? held
      have sound := work.taskStep ready member
      rw [stepTask_of_held held]
      refine ⟨?_, sound.memo.trans work.memoIs, ?_, Nat.le_trans work.next_le sound.next_le, ?_,
        work.numbered_set ready held sound.made⟩
      · have membersHeld : layer[number]? = some task.members := by
          rw [← work.membersAre, List.getElem?_map, held]
          rfl
        obtain ⟨within, isGroup⟩ := List.getElem?_eq_some_iff.mp membersHeld
        rw [List.map_set, sound.members, work.membersAre, ← isGroup]
        exact List.set_getElem_self within
      · intro name outside
        have before := work.agree name outside
        have after := sound.agree name (fun inside => outside
          ((Clustering.mem_namesOf layer name).mpr ⟨task.members, work.mem_layer member, inside⟩))
        exact ⟨after.1.trans before.1, after.2.trans before.2⟩
      · intro other inSet
        rcases work.mem_set ready held inSet with rfl | ⟨isOther, apart⟩
        · rw [sound.members]
          exact sound.stage
        · exact (work.stages other isOther).congr
            (fun name inside => sound.agree name (apart name inside)) sound.next_le

theorem followSchedule (ready : LayerReady settings base layer rest)
    (work : AtWork settings base layer tasks session) (schedule : List Nat) :
    AtWork settings base layer (session.followSchedule settings schedule tasks).1
      (session.followSchedule settings schedule tasks).2 := by
  induction schedule generalizing tasks session with
  | nil => exact work
  | cons number schedule ih => exact ih (work.step ready number)

/-- A task that comes up often enough in a schedule is finished by it. -/
theorem left_followSchedule (ready : LayerReady settings base layer rest)
    (work : AtWork settings base layer tasks session) (schedule : List Nat) {place : Nat}
    {task : GroupTask} (held : tasks[place]? = some task) :
    ∃ after, (session.followSchedule settings schedule tasks).1[place]? = some after ∧
      after.phase.left after.members.length ≤
        task.phase.left task.members.length - schedule.count place := by
  induction schedule generalizing tasks session task with
  | nil => exact ⟨task, held, Nat.le_refl _⟩
  | cons number schedule ih =>
      have next := work.step ready number
      by_cases same : number = place
      · subst same
        have sound := work.taskStep ready (List.mem_of_getElem? held)
        have heldNext : (session.stepTask settings number tasks).1[number]? =
            some (task.step settings session).1 := by
          rw [stepTask_of_held held, List.getElem?_set_self', held]
          rfl
        obtain ⟨after, found, less⟩ := ih next heldNext
        refine ⟨after, found, ?_⟩
        rw [sound.members] at less
        have lessNow := sound.left
        rw [List.count_cons_self]
        omega
      · have heldNext : (session.stepTask settings number tasks).1[place]? = some task := by
          cases moved : tasks[number]? with
          | none =>
              rw [stepTask_of_missing moved]
              exact held
          | some other =>
              rw [stepTask_of_held moved, List.getElem?_set_ne same]
              exact held
        obtain ⟨after, found, less⟩ := ih next heldNext
        refine ⟨after, found, ?_⟩
        rwa [List.count_cons_of_ne same]

end AtWork

/-! ### Finishing is following one more schedule -/

namespace Session

variable {settings : Settings}

/-- The schedule that finishes tasks one after the other, counted from a number on. -/
def finishingSchedule : Nat → List GroupTask → List Nat
  | _, [] => []
  | first, task :: rest =>
    List.replicate task.stepBound first ++ finishingSchedule (first + 1) rest

theorem followSchedule_append (first second : List Nat) (tasks : List GroupTask)
    (session : Session) :
    session.followSchedule settings (first ++ second) tasks =
      (session.followSchedule settings first tasks).2.followSchedule settings second
        (session.followSchedule settings first tasks).1 := by
  induction first generalizing tasks session with
  | nil => rfl
  | cons number first ih => exact ih _ _

theorem followSchedule_replicate (count : Nat) (before after : List GroupTask) (task : GroupTask)
    (session : Session) :
    session.followSchedule settings (List.replicate count before.length)
        (before ++ task :: after) =
      (before ++ (task.steps settings count session).1 :: after,
        (task.steps settings count session).2) := by
  induction count generalizing task session with
  | zero => rfl
  | succ count ih =>
      have held : (before ++ task :: after)[before.length]? = some task := by
        rw [List.getElem?_append_right (Nat.le_refl _), Nat.sub_self]
        rfl
      have stepIs : session.stepTask settings before.length (before ++ task :: after) =
          (before ++ (task.step settings session).1 :: after, (task.step settings session).2) := by
        rw [AtWork.stepTask_of_held held, List.set_append_right _ _ (Nat.le_refl _), Nat.sub_self]
        rfl
      rw [List.replicate_succ]
      unfold followSchedule
      rw [stepIs]
      exact ih _ _

theorem finishTasks_eq_followSchedule (done rest : List GroupTask) (session : Session) :
    session.followSchedule settings (finishingSchedule done.length rest) (done ++ rest) =
      (done ++ (session.finishTasks settings rest).1, (session.finishTasks settings rest).2) := by
  induction rest generalizing done session with
  | nil => rfl
  | cons task rest ih =>
      have next := ih (done ++ [(task.steps settings task.stepBound session).1])
        (task.steps settings task.stepBound session).2
      rw [List.length_append, List.append_assoc, List.append_assoc] at next
      unfold finishingSchedule
      rw [followSchedule_append, followSchedule_replicate]
      exact next

/-- The tasks of a level take their steps in the order of the schedule and of what finishes
them. -/
theorem runTasks_eq_followSchedule (schedule : List Nat) (layer : List (List Dependency))
    (session : Session) :
    session.runTasks settings schedule layer =
      session.followSchedule settings
        (schedule ++ finishingSchedule 0
          (session.followSchedule settings schedule (layer.map GroupTask.start)).1)
        (layer.map GroupTask.start) := by
  rw [followSchedule_append]
  exact (finishTasks_eq_followSchedule [] _ _).symm

theorem count_finishingSchedule {tasks : List GroupTask} {place : Nat} {task : GroupTask}
    (first : Nat) (held : tasks[place]? = some task) :
    task.stepBound ≤ (finishingSchedule first tasks).count (first + place) := by
  induction tasks generalizing first place with
  | nil => cases held
  | cons head tail ih =>
      rw [finishingSchedule, List.count_append]
      cases place with
      | zero =>
          cases held
          rw [Nat.add_zero, List.count_replicate_self]
          exact Nat.le_add_right _ _
      | succ place =>
          rw [List.getElem?_cons_succ] at held
          have later := ih (first + 1) held
          have same : first + (place + 1) = first + 1 + place := by omega
          rw [same]
          exact Nat.le_trans later (Nat.le_add_left _ _)

/-! ### Settling what failed -/

/-- The files of the tasks that ended without a component. -/
def failedNames (tasks : List GroupTask) : List String :=
  (tasks.filter (fun task => !task.succeeded)).flatMap GroupTask.names

theorem mem_failedNames {tasks : List GroupTask} {name : String} :
    name ∈ failedNames tasks ↔ ∃ task ∈ tasks, task.succeeded = false ∧ name ∈ task.names := by
  simp only [failedNames, List.mem_flatMap, List.mem_filter, Bool.not_eq_true', and_assoc]

theorem settleTasks_eq (tasks : List GroupTask) (session : Session) :
    session.settleTasks tasks =
      { session with registry := session.registry.skip (failedNames tasks) } := by
  unfold settleTasks
  induction tasks generalizing session with
  | nil => rfl
  | cons task rest ih =>
      rw [List.foldl_cons, ih]
      cases ended : task.succeeded with
      | true =>
          have same : failedNames (task :: rest) = failedNames rest := by
            rw [failedNames, List.filter_cons_of_neg (by rw [ended]; exact Bool.noConfusion)]
            rfl
          rw [same]
          rfl
      | false =>
          have more : failedNames (task :: rest) = task.names ++ failedNames rest := by
            rw [failedNames, List.filter_cons_of_pos (by rw [ended]; rfl)]
            rfl
          rw [more]
          simp only [Bool.false_eq_true, if_false, Registry.skip, Registry.advanceAll,
            List.foldl_append]

end Session

/-! ### What a level comes to -/

namespace AtWork

variable {settings : Settings} {base session : Session} {layer : List (List Dependency)}
  {rest : List String} {tasks : List GroupTask}

theorem runTasks (ready : LayerReady settings base layer rest) (schedule : List Nat) :
    AtWork settings base layer (base.runTasks settings schedule layer).1
        (base.runTasks settings schedule layer).2 ∧
      ∀ task ∈ (base.runTasks settings schedule layer).1, task.phase.IsFinished := by
  rw [Session.runTasks_eq_followSchedule]
  have begun := (AtWork.start ready).followSchedule ready schedule
  generalize startedIs : (base.followSchedule settings schedule (layer.map GroupTask.start)).1 =
    started at begun
  have work := (AtWork.start ready).followSchedule ready
    (schedule ++ Session.finishingSchedule 0 started)
  refine ⟨work, ?_⟩
  intro task member
  obtain ⟨place, held⟩ := List.mem_iff_getElem?.mp member
  have groupHeld : layer[place]? = some task.members := by
    rw [← work.membersAre, List.getElem?_map, held]
    rfl
  have startHeld : (layer.map GroupTask.start)[place]? = some (GroupTask.start task.members) := by
    rw [List.getElem?_map, groupHeld]
    rfl
  obtain ⟨after, found, less⟩ := (AtWork.start ready).left_followSchedule ready
    (schedule ++ Session.finishingSchedule 0 started) startHeld
  rw [held] at found
  cases found
  have startedHeld : ∃ middle, started[place]? = some middle ∧ middle.members = task.members := by
    rw [← begun.membersAre, List.getElem?_map, Option.map_eq_some_iff] at groupHeld
    exact groupHeld
  obtain ⟨middle, middleHeld, sameMembers⟩ := startedHeld
  have enough := Session.count_finishingSchedule 0 middleHeld
  rw [Nat.zero_add, GroupTask.stepBound, sameMembers] at enough
  rw [List.count_append] at less
  have nothingLeft : task.phase.left task.members.length = 0 := by
    change task.phase.left task.members.length ≤ 3 * task.members.length + 6 - _ at less
    omega
  exact Phase.isFinished_of_left_eq_zero nothingLeft

/-- A task that is finished leaves its group settled once failures are skipped. -/
theorem follows_of_isFinished (work : AtWork settings base layer tasks session)
    {task : GroupTask} (member : task ∈ tasks) (finished : task.phase.IsFinished) :
    ∃ answer, IsAnswerFor settings base.registry task.members answer ∧
      (session.settleTasks tasks).registry.Follows task.members answer := by
  rw [Session.settleTasks_eq]
  have stage := work.stages task member
  obtain ⟨result, phaseIs⟩ := finished
  have dropped : task.succeeded = false → session.registry.Untouched task.members →
      (session.registry.skip (Session.failedNames tasks)).Drops task.members := by
    intro failed untouched name inside
    have inFailed := Session.mem_failedNames.mpr ⟨task, member, failed, inside⟩
    rw [Registry.get?_skip, Registry.state_skip, if_pos inFailed, (untouched name inside).2]
    exact ⟨(untouched name inside).1, rfl⟩
  rw [phaseIs] at stage
  cases stage with
  | @succeeded classification bound answered component _ _ files =>
      refine ⟨.value (.ok classification), answered, bound, component, ?_⟩
      intro name inside
      obtain ⟨held, registered⟩ := files name inside
      rw [Registry.get?_skip, Registry.state_skip, registered]
      refine ⟨held, ?_⟩
      split <;> rfl
  | failed untouched answered =>
      exact ⟨_, answered, dropped (by rw [GroupTask.succeeded, phaseIs]) untouched⟩
  | panicked untouched answered =>
      exact ⟨_, answered, dropped (by rw [GroupTask.succeeded, phaseIs]) untouched⟩

theorem layerDone (ready : LayerReady settings base layer rest)
    (work : AtWork settings base layer tasks session)
    (finished : ∀ task ∈ tasks, task.phase.IsFinished) :
    LayerDone layer base.registry (session.settleTasks tasks).registry := by
  have made : ∀ name ∈ namesOf layer, ∀ bound,
      (session.settleTasks tasks).registry.get? name = some bound →
        ∃ task ∈ tasks, task.phase.instance? = some bound := by
    intro name inLayer bound held
    rw [Session.settleTasks_eq, Registry.get?_skip] at held
    obtain ⟨task, member, inside⟩ := work.exists_task inLayer
    exact ⟨task, member, (work.stages task member).instance_of_held inside held⟩
  refine ⟨?_, ?_, ?_, ?_, ?_⟩
  · intro name outside
    have absent : name ∉ Session.failedNames tasks := by
      intro inFailed
      obtain ⟨task, member, _, inside⟩ := Session.mem_failedNames.mp inFailed
      exact outside ((Clustering.mem_namesOf layer name).mpr
        ⟨task.members, work.mem_layer member, inside⟩)
    rw [Session.settleTasks_eq]
    refine ⟨?_, ?_⟩
    · rw [Registry.get?_skip]
      exact (work.agree name outside).1
    · rw [Registry.state_skip, if_neg absent]
      exact (work.agree name outside).2
  · rw [Session.settleTasks_eq]
    exact Nat.le_trans work.next_le (Nat.le_of_eq (Registry.next_advanceAll _ _ _).symm)
  · intro members isGroup
    have group := ready.groups members isGroup
    rw [← work.membersAre] at isGroup
    obtain ⟨task, member, rfl⟩ := List.mem_map.mp isGroup
    obtain ⟨answer, _, follows⟩ := work.follows_of_isFinished member (finished task member)
    exact follows.settles group.ascending
  · intro name inLayer bound held
    obtain ⟨task, member, isMade⟩ := made name inLayer bound held
    rw [Session.settleTasks_eq]
    have range := (work.stages task member).number_of_instance isMade
    exact ⟨range.1, Nat.lt_of_lt_of_eq range.2 (Registry.next_advanceAll _ _ _).symm⟩
  · intro left leftIn right rightIn first second leftHeld rightHeld
    obtain ⟨leftTask, leftMember, leftMade⟩ := made left leftIn first leftHeld
    obtain ⟨rightTask, rightMember, rightMade⟩ := made right rightIn second rightHeld
    exact work.numbered leftTask leftMember rightTask rightMember first second leftMade rightMade

end AtWork

/-- Work on a layer, in whatever order of steps, settles its groups according to answers that
were given for the registry from before the layer. -/
theorem Session.attributeLevel_sound {settings : Settings} {base : Session}
    {layer : List (List Dependency)} {rest : List String}
    (ready : LayerReady settings base layer rest) (schedule : List Nat) :
    (base.attributeLevel settings schedule layer).memo = base.memo ∧
      LayerDone layer base.registry (base.attributeLevel settings schedule layer).registry ∧
      ∀ members ∈ layer, ∃ answer, IsAnswerFor settings base.registry members answer ∧
        (base.attributeLevel settings schedule layer).registry.Follows members answer := by
  obtain ⟨work, finished⟩ := AtWork.runTasks ready schedule
  refine ⟨?_, work.layerDone ready finished, ?_⟩
  · change ((base.runTasks settings schedule layer).2.settleTasks _).memo = base.memo
    rw [Session.settleTasks_eq]
    exact work.memoIs
  · intro members isGroup
    rw [← work.membersAre] at isGroup
    obtain ⟨task, member, rfl⟩ := List.mem_map.mp isGroup
    exact work.follows_of_isFinished member (finished task member)

end TexAtlas
