/-
A bounded pool for independent tasks. In parallel mode a task needs a permit to
start and gives it back when it ends, whether it returns or panics; finished tasks
are collected once all have started. Results come back in submission order, and a
panic only takes the place of its own result.
-/

namespace TexAtlas

/-- What a panicking task leaves behind. -/
inductive Panic where
  | message (text : String)
  /-- Something that carries no text. -/
  | unknown
  deriving DecidableEq, Repr

def Panic.text : Panic → String
  | .message text => text
  | .unknown => "unknown panic"

/-- How a task ends. -/
inductive Outcome (α : Type) where
  | value (result : α)
  | panicked (panic : Panic)
  deriving DecidableEq, Repr

inductive TaskError where
  | panicked (text : String)
  | notExecuted (reason : String)
  deriving DecidableEq, Repr

def TaskError.message : TaskError → String
  | .panicked text => "task panicked: " ++ text
  | .notExecuted reason => "execution failed: " ++ reason

/-- The result of a task as its caller sees it. -/
def Outcome.settle {α : Type} : Outcome α → Except TaskError α
  | .value result => .ok result
  | .panicked panic => .error (.panicked panic.text)

inductive ExecutionMode where
  /-- One task at a time, in submission order. -/
  | sequential
  | parallel
  deriving DecidableEq, Repr

def ExecutionMode.word : ExecutionMode → String
  | .sequential => "Sequential"
  | .parallel => "Parallel"

structure TaskPool where
  mode : ExecutionMode
  capacity : Nat
  capacity_pos : 0 < capacity

namespace TaskPool

def sequential : TaskPool :=
  { mode := .sequential, capacity := 1, capacity_pos := Nat.one_pos }

/-- A pool with the given number of permits, at least one. -/
def parallel (maxInFlight : Nat) : TaskPool :=
  { mode := .parallel
    capacity := max maxInFlight 1
    capacity_pos := Nat.lt_of_lt_of_le Nat.one_pos (Nat.le_max_right _ _) }

def ofMode : ExecutionMode → Nat → TaskPool
  | .sequential, _ => sequential
  | .parallel, maxInFlight => parallel maxInFlight

/-- The most permits that there can be. -/
def permitLimit : Nat := 2305843009213693951

/-- Make a pool. One with more permits than there can be is not made. -/
def make (pool : TaskPool) : Outcome TaskPool :=
  if pool.capacity ≤ permitLimit then .value pool
  else
    .panicked (.message ("a semaphore may not have more than MAX_PERMITS permits (" ++
      toString permitLimit ++ ")"))

/-- A parallel run in progress. Tasks are known by their position in the list. -/
structure Progress (α : Type) where
  /-- Tasks that wait for a permit, the next one first. -/
  pending : List (Nat × Outcome α)
  /-- Tasks that hold a permit. -/
  live : List (Nat × Outcome α)
  /-- Tasks that ended and were not collected yet. -/
  ended : List (Nat × Except TaskError α)
  /-- One place per task, filled when the task is collected. -/
  slots : List (Option (Except TaskError α))

/-- What can happen next: the next task starts, a live task ends, or an ended task is
collected. The number is a position among the live or the ended tasks. -/
inductive Move where
  | start
  | finish (position : Nat)
  | collect (position : Nat)
  deriving DecidableEq, Repr

namespace Progress

variable {α : Type}

def initial (tasks : List (Outcome α)) : Progress α :=
  { pending := tasks.zipIdx.map (fun entry => (entry.2, entry.1))
    live := []
    ended := []
    slots := tasks.map (fun _ => none) }

/-- The progress after a move, if the move is possible. -/
def move? (capacity : Nat) (progress : Progress α) : Move → Option (Progress α)
  | .start =>
    match progress.pending with
    | [] => none
    | task :: rest =>
      if progress.live.length < capacity then
        some { progress with pending := rest, live := progress.live ++ [task] }
      else none
  | .finish position =>
    match progress.live[position]? with
    | none => none
    | some task =>
      some { progress with
        live := progress.live.eraseIdx position
        ended := progress.ended ++ [(task.1, task.2.settle)] }
  | .collect position =>
    match progress.pending, progress.ended[position]? with
    | [], some task =>
      some { progress with
        ended := progress.ended.eraseIdx position
        slots := progress.slots.set task.1 (some task.2) }
    | _, _ => none

/-- One step of a parallel run. -/
def Step (capacity : Nat) (before after : Progress α) : Prop :=
  ∃ move, before.move? capacity move = some after

/-- All tasks are collected. -/
def isFinished (progress : Progress α) : Bool :=
  progress.pending.isEmpty && progress.live.isEmpty && progress.ended.isEmpty

/-- The results in submission order. -/
def results (progress : Progress α) : List (Except TaskError α) :=
  progress.slots.map (fun slot => slot.getD (.error (.notExecuted "task did not complete")))

/-- The move an eager run makes: start while permits last, else end the oldest live
task, else collect. -/
def eagerMove (capacity : Nat) (progress : Progress α) : Option (Progress α) :=
  match progress.move? capacity .start with
  | some next => some next
  | none =>
    match progress.move? capacity (.finish 0) with
    | some next => some next
    | none => progress.move? capacity (.collect 0)

/-- The states an eager run goes through. Every task is started, ended and collected
once, so three moves per task are enough. -/
def eagerStates (capacity : Nat) : Nat → Progress α → List (Progress α)
  | 0, progress => [progress]
  | moves + 1, progress =>
    match progress.eagerMove capacity with
    | some next => progress :: eagerStates capacity moves next
    | none => [progress]

end Progress

variable {α : Type}

/-- The states of a run, the last one finished. -/
def states (pool : TaskPool) (tasks : List (Outcome α)) : List (Progress α) :=
  Progress.eagerStates pool.capacity (3 * tasks.length) (Progress.initial tasks)

/-- The results of the tasks in submission order. -/
def run (pool : TaskPool) (tasks : List (Outcome α)) : List (Except TaskError α) :=
  match pool.mode with
  | .sequential => tasks.map Outcome.settle
  | .parallel =>
    ((pool.states tasks).getLast?.map Progress.results).getD []

/-- Whether a run never has more live tasks than permits. -/
def staysWithin (pool : TaskPool) (tasks : List (Outcome α)) : Bool :=
  (pool.states tasks).all (fun progress => decide (progress.live.length ≤ pool.capacity))

end TaskPool

end TexAtlas
