/-
What a session notes down. The journal only grows. A discovery notes each file that it
comes to know, once; a task notes one look-up and one classification of its group, whatever
the order of the steps. So what a level adds to the journal is fixed by its groups.
-/

import TexAtlas.Proofs.Session.Resolving

namespace TexAtlas

open Clustering (namesOf)

variable {settings : Settings}

/-! ### Kinds of events -/

namespace Event

/-- The engine was asked which files a file of this name loads. -/
def lists (name : String) : Event → Bool
  | .listed file => file.name == name
  | _ => false

/-- An attribution was attempted for a group with a file of this name. -/
def attempts (name : String) : Event → Bool
  | .surveyed members _ => members.contains name
  | _ => false

/-- Candidates of a group led by a file of one of these names were handed to the
classifier. -/
def classifies (names : List String) : Event → Bool
  | .classified lead _ => names.contains lead.name
  | _ => false

theorem countP_lists_listed (name : String) (files : List File) :
    (files.map listed).countP (lists name) = (files.map File.name).count name := by
  rw [List.count, List.countP_map, List.countP_map]
  rfl

theorem countP_attempts_listed (name : String) (files : List File) :
    (files.map listed).countP (attempts name) = 0 := by
  rw [List.countP_map]
  exact congrFun List.countP_false files

theorem countP_classifies_listed (names : List String) (files : List File) :
    (files.map listed).countP (classifies names) = 0 := by
  rw [List.countP_map]
  exact congrFun List.countP_false files

end Event

namespace Session

/-- How often the engine was asked what a file loads. -/
def listings (name : String) (session : Session) : Nat :=
  session.journal.countP (Event.lists name)

/-- In how many attempts at an attribution a file took part. -/
def attempts (name : String) (session : Session) : Nat :=
  session.journal.countP (Event.attempts name)

/-- How often candidates were classified for a group led by one of these files. Each time
the engine is asked once at most. -/
def classifications (names : List String) (session : Session) : Nat :=
  session.journal.countP (Event.classifies names)

section

variable {files : List File} {before after : Session}
  (noted : after.journal = before.journal ++ files.map Event.listed)

include noted

theorem listings_of_listed (name : String) :
    after.listings name = before.listings name + (files.map File.name).count name := by
  rw [listings, noted, List.countP_append, Event.countP_lists_listed]
  rfl

theorem attempts_of_listed (name : String) : after.attempts name = before.attempts name := by
  rw [attempts, noted, List.countP_append, Event.countP_attempts_listed]
  rfl

theorem classifications_of_listed (names : List String) :
    after.classifications names = before.classifications names := by
  rw [classifications, noted, List.countP_append, Event.countP_classifies_listed]
  rfl

end

end Session

/-! ### The steps of a task -/

namespace GroupTask

/-- What the next step of a task notes down, given the registry that it finds. -/
def notes (task : GroupTask) (registry : Registry) : List Event :=
  match task.members, task.phase with
  | _ :: _, .waiting => [.surveyed task.names registry]
  | lead :: _, .scanned candidates => [.classified lead.file candidates]
  | _, _ => []

theorem journal_step (task : GroupTask) (session : Session) :
    (task.step settings session).2.journal = session.journal ++ task.notes session.registry := by
  obtain ⟨members, phase⟩ := task
  cases phase with
  | waiting =>
      cases members with
      | nil => exact (List.append_nil _).symm
      | cons lead rest => rfl
  | scanned candidates =>
      cases members with
      | nil => exact (List.append_nil _).symm
      | cons lead rest => rfl
  | surveyed reached | finished result =>
      cases members <;> exact (List.append_nil _).symm
  | marking classification names | binding bound names | sealing bound names =>
      cases members <;> cases names <;> exact (List.append_nil _).symm

end GroupTask

namespace Phase

/-- The look-up of what the group reaches is behind. -/
def pastLookUp : Phase → Bool
  | .waiting => false
  | _ => true

/-- The classification of the group is behind. -/
def pastClassification : Phase → Bool
  | .waiting | .surveyed _ | .scanned _ => false
  | _ => true

theorem pastLookUp_of_pastClassification {phase : Phase}
    (past : phase.pastClassification = true) : phase.pastLookUp = true := by
  cases phase with
  | waiting => cases past
  | _ => rfl

end Phase

theorem GroupTask.pastClassification_afterClassification (members : List Dependency)
    (answer : Outcome (Except Probe.ClassifyError Probe.Classification)) :
    (afterClassification members answer).pastClassification = true := by
  cases answer with
  | panicked panic => rfl
  | value classified => cases classified <;> rfl

/-- A task whose group a kind of event is about is past the step that notes it. -/
def GroupTask.hasNoted (about : List Dependency → Bool) (past : Phase → Bool)
    (task : GroupTask) : Bool :=
  past task.phase && about task.members

/-- A task notes events of a kind in the one step that gets it past something: one event if
the kind is about its group, and else none. -/
structure NotedOnce (settings : Settings) (kind : Event → Bool)
    (about : List Dependency → Bool) (past : Phase → Bool) : Prop where
  waiting : past .waiting = false
  finished : ∀ result, past (.finished result) = true
  step : ∀ (task : GroupTask) (session : Session), task.members ≠ [] →
    (task.notes session.registry).countP kind + (task.hasNoted about past).toNat =
      ((task.step settings session).1.hasNoted about past).toNat

theorem countP_single {α : Type} (counted : α → Bool) (item : α) :
    [item].countP counted = (counted item).toNat := by
  rw [List.countP_singleton]
  cases counted item <;> rfl

/-- Tasks never ask what a file loads. -/
theorem notedOnce_lists (name : String) :
    NotedOnce settings (Event.lists name) (fun _ => false) Phase.pastLookUp where
  waiting := rfl
  finished _ := rfl
  step task session _ := by
    obtain ⟨members, phase⟩ := task
    rw [GroupTask.hasNoted, GroupTask.hasNoted, Bool.and_false, Bool.and_false]
    cases members <;> cases phase <;> rfl

/-- A task looks up what its group reaches in its first step. -/
theorem notedOnce_attempts (name : String) :
    NotedOnce settings (Event.attempts name)
      (fun members => (members.map Dependency.name).contains name) Phase.pastLookUp where
  waiting := rfl
  finished _ := rfl
  step task session nonempty := by
    obtain ⟨members, phase⟩ := task
    cases members with
    | nil => exact absurd rfl nonempty
    | cons lead rest =>
        cases phase with
        | waiting => exact countP_single _ _
        | surveyed reached | finished result => exact Nat.zero_add _
        | scanned candidates =>
            change 0 + _ = ((GroupTask.afterClassification _ _).pastLookUp && _).toNat
            rw [Phase.pastLookUp_of_pastClassification
              (GroupTask.pastClassification_afterClassification _ _), Nat.zero_add]
            rfl
        | marking classification names | binding bound names | sealing bound names =>
            cases names <;> exact Nat.zero_add _

theorem notedOnce_classifies (names : List String) :
    NotedOnce settings (Event.classifies names)
      (fun members => members.head?.any (fun lead => names.contains lead.name))
      Phase.pastClassification where
  waiting := rfl
  finished _ := rfl
  step task session nonempty := by
    obtain ⟨members, phase⟩ := task
    cases members with
    | nil => exact absurd rfl nonempty
    | cons lead rest =>
        cases phase with
        | waiting | surveyed reached | finished result => exact Nat.zero_add _
        | scanned candidates =>
            change [Event.classified lead.file candidates].countP (Event.classifies names) + 0 =
              ((GroupTask.afterClassification _ _).pastClassification && _).toNat
            rw [GroupTask.pastClassification_afterClassification, countP_single]
            rfl
        | marking classification names | binding bound names | sealing bound names =>
            cases names <;> exact Nat.zero_add _

/-! ### The tasks of a level -/

section

variable {base session : Session} {layer : List (List Dependency)} {rest : List String}
  {tasks : List GroupTask} {kind : Event → Bool} {about : List Dependency → Bool}
  {past : Phase → Bool}

theorem countP_set_add {place : Nat} {old : GroupTask} (held : tasks[place]? = some old)
    (counted : GroupTask → Bool) (new : GroupTask) :
    (tasks.set place new).countP counted + (counted old).toNat =
      tasks.countP counted + (counted new).toNat := by
  induction tasks generalizing place with
  | nil => cases held
  | cons head tail ih =>
      cases place with
      | zero =>
          cases held
          rw [List.set_cons_zero, List.countP_cons, List.countP_cons]
          cases counted old <;> cases counted new <;> simp
      | succ place =>
          have later := ih held
          rw [List.set_cons_succ, List.countP_cons, List.countP_cons]
          omega

/-- What a step adds to the journal is what its task gets past. -/
theorem AtWork.countP_stepTask (ready : LayerReady settings base layer rest)
    (once : NotedOnce settings kind about past)
    (work : AtWork settings base layer tasks session) (number : Nat) :
    (session.stepTask settings number tasks).2.journal.countP kind +
        tasks.countP (GroupTask.hasNoted about past) =
      session.journal.countP kind +
        (session.stepTask settings number tasks).1.countP (GroupTask.hasNoted about past) := by
  cases held : tasks[number]? with
  | none => rw [AtWork.stepTask_of_missing held]
  | some task =>
      have nonempty := (ready.groups _ (work.mem_layer (List.mem_of_getElem? held))).nonempty
      -- Only this task changes: what it notes is what it gets past by the step.
      have stepped := once.step task session nonempty
      have replaced := countP_set_add held (GroupTask.hasNoted about past)
        (task.step settings session).1
      rw [AtWork.stepTask_of_held held, GroupTask.journal_step, List.countP_append]
      dsimp only
      omega

/-- However the tasks take their steps, what they noted is what they got past. -/
theorem AtWork.countP_followSchedule (ready : LayerReady settings base layer rest)
    (once : NotedOnce settings kind about past)
    (work : AtWork settings base layer tasks session) (schedule : List Nat) :
    (session.followSchedule settings schedule tasks).2.journal.countP kind +
        tasks.countP (GroupTask.hasNoted about past) =
      session.journal.countP kind +
        (session.followSchedule settings schedule tasks).1.countP
          (GroupTask.hasNoted about past) := by
  induction schedule generalizing tasks session with
  | nil => rfl
  | cons number schedule ih =>
      have first := work.countP_stepTask ready once number
      have others := ih (work.step ready number)
      have same : session.followSchedule settings (number :: schedule) tasks =
          (session.stepTask settings number tasks).2.followSchedule settings schedule
            (session.stepTask settings number tasks).1 := rfl
      rw [same]
      omega

/-- A level notes one event for each of its groups that the kind is about. -/
theorem countP_attributeLevel (ready : LayerReady settings base layer rest)
    (once : NotedOnce settings kind about past) (schedule : List Nat) :
    (base.attributeLevel settings schedule layer).journal.countP kind =
      base.journal.countP kind + layer.countP about := by
  obtain ⟨work, finished⟩ := AtWork.runTasks ready schedule
  have started : (layer.map GroupTask.start).countP (GroupTask.hasNoted about past) = 0 := by
    rw [List.countP_eq_zero]
    intro task member
    obtain ⟨members, _, rfl⟩ := List.mem_map.mp member
    rw [GroupTask.hasNoted, GroupTask.start, once.waiting]
    exact Bool.noConfusion
  have ended : (base.runTasks settings schedule layer).1.countP (GroupTask.hasNoted about past) =
      layer.countP about := by
    conv_rhs => rw [← work.membersAre, List.countP_map]
    refine List.countP_congr ?_
    intro task member
    obtain ⟨result, phaseIs⟩ := finished task member
    rw [GroupTask.hasNoted, phaseIs, once.finished, Bool.true_and]
    rfl
  have counted := (AtWork.start ready).countP_followSchedule ready once
    (schedule ++ Session.finishingSchedule 0
      (base.followSchedule settings schedule (layer.map GroupTask.start)).1)
  rw [← Session.runTasks_eq_followSchedule, started, ended] at counted
  change ((base.runTasks settings schedule layer).2.settleTasks _).journal.countP kind = _
  rw [Session.settleTasks_eq]
  exact counted

theorem listings_attributeLevel (ready : LayerReady settings base layer rest)
    (schedule : List Nat) (name : String) :
    (base.attributeLevel settings schedule layer).listings name = base.listings name := by
  refine (countP_attributeLevel ready (notedOnce_lists name) schedule).trans ?_
  rw [congrFun List.countP_false]
  rfl

theorem attempts_attributeLevel (ready : LayerReady settings base layer rest)
    (schedule : List Nat) (name : String) :
    (base.attributeLevel settings schedule layer).attempts name =
      base.attempts name + layer.countP (fun members =>
        (members.map Dependency.name).contains name) :=
  countP_attributeLevel ready (notedOnce_attempts name) schedule

theorem classifications_attributeLevel (ready : LayerReady settings base layer rest)
    (schedule : List Nat) (names : List String) :
    (base.attributeLevel settings schedule layer).classifications names =
      base.classifications names + layer.countP (fun members =>
        members.head?.any (fun lead => names.contains lead.name)) :=
  countP_attributeLevel ready (notedOnce_classifies names) schedule

end

/-! ### Discovery -/

namespace Session

variable {session : Session} {admitted : File → Prop}

theorem contains_remember_iff (memo : Memo) (dependency : Dependency) (name : String) :
    (remember memo dependency : Memo).contains name = true ↔
      memo.contains name = true ∨ dependency.name = name := by
  unfold remember
  split
  · rename_i known
    refine ⟨Or.inl, ?_⟩
    rintro (before | rfl)
    · exact before
    · exact known
  · rw [NameMap.contains_insert, or_comm]

theorem contains_foldl_remember_iff (found : List Dependency) (memo : Memo) (name : String) :
    (found.foldl remember memo : Memo).contains name = true ↔
      memo.contains name = true ∨ name ∈ found.map Dependency.name := by
  rw [List.mem_map]
  exact foldl_iff (fun memo : Memo => memo.contains name = true)
    (fun memo dependency => contains_remember_iff memo dependency name) found memo

/-- A session came to know these files, each of which it listed once. -/
structure Learned (files : List File) (before after : Session) : Prop where
  journal : after.journal = before.journal ++ files.map Event.listed
  known : ∀ name, (after.memo.contains name).toNat =
    (before.memo.contains name).toNat + (files.map File.name).count name

namespace Learned

variable {files : List File} {before after : Session}

theorem refl (session : Session) : Learned [] session session :=
  ⟨(List.append_nil _).symm, fun _ => rfl⟩

theorem trans {first second : List File} {middle : Session}
    (left : Learned first before middle) (right : Learned second middle after) :
    Learned (first ++ second) before after := by
  refine ⟨?_, ?_⟩
  · rw [right.journal, left.journal, List.append_assoc, List.map_append]
  · intro name
    rw [right.known, left.known, List.map_append, List.count_append, Nat.add_assoc]

theorem mem_names_iff (learned : Learned files before after) (name : String) :
    name ∈ files.map File.name ↔
      before.memo.contains name = false ∧ after.memo.contains name = true := by
  have known := learned.known name
  rw [← List.count_pos_iff]
  generalize (files.map File.name).count name = times at known ⊢
  revert known
  cases before.memo.contains name <;> cases after.memo.contains name <;> simp <;> omega

theorem nodup (learned : Learned files before after) : (files.map File.name).Nodup := by
  rw [List.nodup_iff_count_le_one]
  intro name
  have known := learned.known name
  have atMost := Bool.toNat_le (after.memo.contains name)
  omega

end Learned

theorem learned_probeWave {waiting : List File} (distinct : (waiting.map File.name).Nodup) :
    Learned (session.pendingFiles waiting) session (session.probeWave settings waiting) := by
  have pendingDistinct : ((session.pendingFiles waiting).map File.name).Nodup :=
    distinct.sublist (List.filter_sublist.map File.name)
  have namesAre : ((session.pendingFiles waiting).zipIdx.map (fun entry =>
      settings.probeAt (session.asked + entry.2) entry.1)).map Dependency.name =
        (session.pendingFiles waiting).map File.name := by
    conv_rhs => rw [← List.zipIdx_map_fst 0 (session.pendingFiles waiting), List.map_map]
    rw [List.map_map]
    exact List.map_congr_left (fun entry _ => settings.probeAt_name _ entry.1)
  have isKnown : ∀ name, (session.probeWave settings waiting).memo.contains name = true ↔
      session.memo.contains name = true ∨
        name ∈ (session.pendingFiles waiting).map File.name := by
    intro name
    rw [memo_probeWave, ← namesAre]
    exact contains_foldl_remember_iff _ _ name
  refine ⟨rfl, ?_⟩
  intro name
  rw [pendingDistinct.count]
  by_cases inPending : name ∈ (session.pendingFiles waiting).map File.name
  · obtain ⟨file, pending, rfl⟩ := List.mem_map.mp inPending
    have unknown := (List.mem_filter.mp pending).2
    rw [Bool.not_eq_true'] at unknown
    rw [if_pos inPending, unknown, (isKnown _).mpr (Or.inr inPending)]
    rfl
  · rw [if_neg inPending, Nat.add_zero]
    refine congrArg Bool.toNat (Bool.eq_iff_iff.mpr ((isKnown name).trans ?_))
    exact or_iff_left inPending

theorem learned_grow {waves : Nat} {waiting : List File} {nodes result : NameMap Dependency}
    {final : Session} (distinct : (waiting.map File.name).Nodup)
    (grown : Session.grow settings waves waiting nodes session = some (result, final)) :
    (∃ files, Learned files session final) ∧ final.registry = session.registry := by
  induction waves generalizing waiting nodes session with
  | zero =>
      cases waiting with
      | nil =>
          cases grown
          exact ⟨⟨[], Learned.refl _⟩, rfl⟩
      | cons file files => cases grown
  | succ waves ih =>
      cases waiting with
      | nil =>
          cases grown
          exact ⟨⟨[], Learned.refl _⟩, rfl⟩
      | cons file files =>
          obtain ⟨⟨more, learned⟩, registryIs⟩ := ih (nodup_firstOfEachName _ _) grown
          exact ⟨⟨_, (learned_probeWave distinct).trans learned⟩, registryIs⟩

/-- To cluster what is below a file lists the files that become known by it, each once, and
nothing else. -/
theorem learned_cluster {entry : File} {clustering : Clustering} {grown : Session}
    (clustered : session.cluster settings entry = some (clustering, grown)) :
    (∃ files, Learned files session grown) ∧ grown.registry = session.registry := by
  obtain ⟨⟨nodes, discovered⟩, found, same⟩ := Option.map_eq_some_iff.mp clustered
  cases same
  have distinct : ([entry].map File.name).Nodup := List.nodup_singleton entry.name
  exact learned_grow distinct found

/-- A single probe finds the file known, or lists it. If the engine panics, it leaves nothing
behind but its note. -/
theorem dependency_cases (settings : Settings) (session : Session) (file : File) :
    (∃ known, session.dependency settings file = (.value known, session)) ∨
      session.memo.contains file.name = false ∧
        ((∃ found, found.name = file.name ∧
          session.dependency settings file = (.value found,
            { session.note [.listed file] with memo := remember session.memo found })) ∨
        ∃ panic, session.dependency settings file =
          (.panicked panic, session.note [.listed file])) := by
  unfold dependency
  cases held : session.memo.get? file.name with
  | some known => exact Or.inl ⟨known, rfl⟩
  | none =>
      refine Or.inr ⟨(NameMap.contains_eq_false_iff _ _).mpr held, ?_⟩
      cases probed : (settings.lister session.asked).probe file with
      | panicked panic => exact Or.inr ⟨panic, rfl⟩
      | value found =>
          have foundIs : found = settings.probeAt session.asked file := by
            rw [Settings.probeAt, probed]
            rfl
          refine Or.inl ⟨found, ?_, rfl⟩
          rw [foundIs, Settings.probeAt_name]

/-! ### The journal only grows -/

theorem journal_stepTask (number : Nat) (tasks : List GroupTask) :
    session.journal <+: (session.stepTask settings number tasks).2.journal := by
  cases held : tasks[number]? with
  | none =>
      rewrite [AtWork.stepTask_of_missing held]
      exact List.prefix_refl _
  | some task =>
      rw [AtWork.stepTask_of_held held, GroupTask.journal_step]
      exact List.prefix_append ..

theorem journal_followSchedule (schedule : List Nat) (tasks : List GroupTask) :
    session.journal <+: (session.followSchedule settings schedule tasks).2.journal := by
  induction schedule generalizing tasks session with
  | nil => exact List.prefix_refl _
  | cons number schedule ih =>
      exact (journal_stepTask number tasks).trans (ih _)

theorem journal_attributeLevels (levels : List (List (List Dependency))) :
    session.journal <+: (session.attributeLevels settings levels).journal := by
  induction levels generalizing session with
  | nil => exact List.prefix_refl _
  | cons level levels ih =>
      refine List.IsPrefix.trans ?_ ih
      change session.journal <+:
        ((session.runTasks settings _ level).2.settleTasks _).journal
      rw [settleTasks_eq, runTasks_eq_followSchedule]
      exact journal_followSchedule _ _

theorem journal_resolveClosure {file : File} {found : Option Instance} {after : Session}
    (ran : session.resolveClosure settings file = some (found, after)) :
    session.journal <+: after.journal := by
  unfold resolveClosure at ran
  split at ran
  · cases ran
    exact List.prefix_refl _
  · split at ran
    · cases ran
      exact List.prefix_refl _
    · obtain ⟨⟨clustering, grown⟩, clustered, same⟩ := Option.map_eq_some_iff.mp ran
      cases same
      obtain ⟨⟨files, learned⟩, _⟩ := learned_cluster clustered
      refine List.IsPrefix.trans ?_ (journal_attributeLevels clustering.byLevel)
      exact ⟨_, learned.journal.symm⟩

theorem journal_dependency (file : File) :
    session.journal <+: (session.dependency settings file).2.journal := by
  rcases dependency_cases settings session file with
    ⟨known, same⟩ | ⟨_, ⟨found, _, same⟩ | ⟨panic, same⟩⟩
  · rewrite [same]
    exact List.prefix_refl _
  · rw [same]
    exact List.prefix_append ..
  · rw [same]
    exact List.prefix_append ..

end Session

end TexAtlas
