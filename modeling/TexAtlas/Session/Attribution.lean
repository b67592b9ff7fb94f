/-
Attributing symbols to the groups of one level. The task of a group looks up the
components that it reaches, scans its sources for candidates, asks the engine about them
and registers the component. Tasks of a level share the registry and take their steps in
any order, so a task is a machine whose single steps read or change the registry at
most once.
-/

import TexAtlas.Session.Basic

namespace TexAtlas

/-- How the task of a group ends. -/
abbrev TaskResult := Outcome (Except Probe.ClassifyError Instance)

/-- Where the task of a group stands. -/
inductive Phase where
  | waiting
  /-- The components that are reached are known. -/
  | surveyed (reached : List Component)
  | scanned (candidates : SortedNames)
  /-- The symbols are known; these members are still to be marked as classified. -/
  | marking (classification : Probe.Classification) (unmarked : List String)
  /-- The component exists; these names are still to be bound to it. -/
  | binding (bound : Instance) (unbound : List String)
  /-- All names are bound; these are still to be marked as registered. -/
  | sealing (bound : Instance) (unsealed : List String)
  | finished (result : TaskResult)

/-- One group at work. -/
structure GroupTask where
  members : List Dependency
  phase : Phase

namespace GroupTask

def start (members : List Dependency) : GroupTask :=
  { members := members, phase := .waiting }

def names (task : GroupTask) : List String :=
  task.members.map Dependency.name

/-- The names from which the reached components are looked up: what the members refer to,
and the baseline files, members themselves left out. -/
def roots (settings : Settings) (members : List Dependency) : List String :=
  let inside := members.map Dependency.name
  (Component.outwardReferences members ++ settings.baseline.toList).filter
    (fun name => !inside.contains name)

/-- The phase after the engine has answered about the candidates of a group. -/
def afterClassification (members : List Dependency) :
    Outcome (Except Probe.ClassifyError Probe.Classification) → Phase
  | .value (.ok classification) => .marking classification (members.map Dependency.name)
  | .value (.error error) => .finished (.value (.error error))
  | .panicked panic => .finished (.panicked panic)

/-- The component of a group whose symbols are known. -/
def componentOf (members : List Dependency) (classification : Probe.Classification) :
    Component :=
  Component.ofMembers members classification.commands.toList
    classification.environments.toList

/-- Put the registry of a session in place. -/
def withRegistry (session : Session) (registry : Registry) : Session :=
  { session with registry := registry }

/-- One step of a task. A finished task stays as it is. -/
def step (settings : Settings) (task : GroupTask) (session : Session) :
    GroupTask × Session :=
  let go := fun (phase : Phase) => { task with phase := phase }
  match task.members, task.phase with
  | [], .waiting =>
    (go (.finished (.value (.error (.scan "" "component has no members")))), session)
  | _ :: _, .waiting =>
    let reached := (session.registry.reachable (roots settings task.members)).map
      Instance.component
    (go (.surveyed reached), session.note [.surveyed task.names session.registry])
  | members, .surveyed reached =>
    (go (.scanned ((settings.scanner session.asked).candidates members settings.kernel reached)),
      session)
  | [], .scanned _ =>
    (go (.finished (.value (.error (.scan "" "component has no members")))), session)
  | lead :: _, .scanned candidates =>
    (go (afterClassification task.members
        ((settings.classifier session.asked).classify lead.file candidates)),
      session.note [.classified lead.file candidates])
  | _, .marking classification (name :: unmarked) =>
    (go (.marking classification unmarked),
      withRegistry session (session.registry.advance name .classified))
  | members, .marking classification [] =>
    let (bound, registry) := session.registry.allocate (componentOf members classification)
    (go (.binding bound bound.component.fileNames), withRegistry session registry)
  | _, .binding bound (name :: unbound) =>
    (go (.binding bound unbound), withRegistry session (session.registry.bind name bound))
  | _, .binding bound [] => (go (.sealing bound bound.component.fileNames), session)
  | _, .sealing bound (name :: unsealed) =>
    (go (.sealing bound unsealed),
      withRegistry session (session.registry.advance name .registered))
  | _, .sealing bound [] => (go (.finished (.value (.ok bound))), session)
  | _, .finished _ => (task, session)

/-- How many steps a task can take before it is finished. -/
def stepBound (task : GroupTask) : Nat :=
  3 * task.members.length + 6

/-- Take several steps one after the other. -/
def steps (settings : Settings) : Nat → GroupTask → Session → GroupTask × Session
  | 0, task, session => (task, session)
  | count + 1, task, session =>
    let (next, changed) := task.step settings session
    steps settings count next changed

/-- Whether a task ended in a registered component. -/
def succeeded (task : GroupTask) : Bool :=
  match task.phase with
  | .finished (.value (.ok _)) => true
  | _ => false

end GroupTask

namespace Session

/-- One step of the task with a given number. A number without a task does nothing. -/
def stepTask (settings : Settings) (number : Nat) (tasks : List GroupTask)
    (session : Session) : List GroupTask × Session :=
  match tasks[number]? with
  | none => (tasks, session)
  | some task =>
    let (next, changed) := task.step settings session
    (tasks.set number next, changed)

/-- Steps in the order of a schedule. -/
def followSchedule (settings : Settings) : List Nat → List GroupTask → Session →
    List GroupTask × Session
  | [], tasks, session => (tasks, session)
  | number :: schedule, tasks, session =>
    let (next, changed) := session.stepTask settings number tasks
    followSchedule settings schedule next changed

/-- Finish the tasks that are left, one after the other. -/
def finishTasks (settings : Settings) : List GroupTask → Session → List GroupTask × Session
  | [], session => ([], session)
  | task :: rest, session =>
    let (done, changed) := task.steps settings task.stepBound session
    let (others, final) := changed.finishTasks settings rest
    (done :: others, final)

/-- Skip the files of every task that failed. -/
def settleTasks (tasks : List GroupTask) (session : Session) : Session :=
  tasks.foldl
    (fun session task =>
      if task.succeeded then session
      else { session with registry := session.registry.skip task.names })
    session

/-- The tasks of a level as they end under a schedule, before failures are settled. -/
def runTasks (settings : Settings) (schedule : List Nat) (level : List (List Dependency))
    (session : Session) : List GroupTask × Session :=
  let (started, changed) := session.followSchedule settings schedule (level.map GroupTask.start)
  changed.finishTasks settings started

/-- Attribute symbols to all groups of a level under a schedule. -/
def attributeLevel (settings : Settings) (schedule : List Nat)
    (level : List (List Dependency)) (session : Session) : Session :=
  let (tasks, changed) := session.runTasks settings schedule level
  changed.settleTasks tasks

/-- The order in which the tasks of a level take their steps: one task after the other
in a sequential pool, as the settings say in a parallel one. -/
def scheduleOf (settings : Settings) (level : List (List Dependency)) : List Nat :=
  match settings.pool.mode with
  | .sequential => []
  | .parallel => settings.schedule (level.map (fun members => members.map Dependency.name))

end Session

end TexAtlas
