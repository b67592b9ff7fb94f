/-
Actions of a running script. An action changes the machine and may stop what is going
on around it: a loop, a function, or the whole run.
-/

import TexAtlas.Script.Machine

namespace TexAtlas.Script

/-- Why a command stops what is around it. -/
inductive Stop where
  /-- So many loops are left. -/
  | broken (loops : Nat)
  /-- So many loops but the last are left, and that one goes on. -/
  | continued (loops : Nat)
  | returned
  | exited
  /-- The script ended itself by a signal. -/
  | killed
  /-- The deadline has passed. -/
  | outOfTime
  deriving DecidableEq, Repr

abbrev Action (α : Type) := ExceptT Stop (StateM Machine) α

namespace Action

def setStatus (status : Nat) : Action Unit :=
  modify (fun machine => { machine with status := status })

def succeeded : Action Bool := do
  return (← get).status = 0

def report (text : String) : Action Unit :=
  modify (fun machine =>
    machine.report (machine.name ++ (": " ++ toString machine.line ++ ": " ++ text).toList))

/-- End the run with a complaint. -/
def refuse {α : Type} (text : String) : Action α := do
  report text
  setStatus 2
  throw .exited

/-- How many characters a run may move, and how long a value may be. A script that goes on
beyond is taken for one that does not end. -/
def movedLimit : Nat := 5000000
def valueLimit : Nat := 1000000

/-- Stop where the deadline has passed. -/
def checkDeadline : Action Unit := do
  let machine ← get
  if movedLimit < machine.moved then throw .outOfTime
  match machine.deadline with
  | some deadline => if deadline ≤ machine.clock then throw .outOfTime
  | none => return ()

/-- Stop where a command failed, if that is asked for. -/
def checkFailure : Action Unit := do
  let machine ← get
  if machine.stopsOnFailure && machine.testing = 0 && machine.status ≠ 0 then throw .exited

/-- Run an action and put something back afterwards, however it ends. -/
def restoring {α : Type} (restore : Machine → Machine → Machine) (action : Action α) :
    Action α :=
  fun before =>
    match action before with
    | (result, after) => (result, restore before after)

/-- An action that is part of a test. -/
def tested (action : Action Unit) : Action Unit :=
  restoring (fun before after => { after with testing := before.testing }) (do
    modify (fun machine => { machine with testing := machine.testing + 1 })
    action)

/-- How many statuses of processes there are. -/
def statusCount : Nat := 256

/-- What outlives a process of its own: the files, the streams, the time and the
status. -/
def leaveProcess (before after : Machine) : Machine :=
  { before with
    tree := { after.tree with current := before.tree.current }
    streams := after.streams
    status := after.status % statusCount
    clock := after.clock
    moved := after.moved }

/-- Run an action as a process of its own. Only the end of the whole run leaves it. -/
def inProcess (action : Action Unit) : Action Unit :=
  fun before =>
    match action { before with background := [] } with
    | (.error .killed, after) => (.error .killed, leaveProcess before after)
    | (.error .outOfTime, after) => (.error .outOfTime, leaveProcess before after)
    | (_, after) => (.ok (), leaveProcess before after)

/-- The machine after an action that is a process of its own, however it ends. -/
def afterProcess (action : Action Unit) (machine : Machine) : Machine :=
  (inProcess action machine).2

/-- Whether an action leaves files and streams alone until it sleeps. -/
def sleepsFirst (action : Action Unit) (machine : Machine) : Bool :=
  let after := afterProcess action { machine with deadline := some (machine.clock + 1) }
  machine.clock < after.clock && after.tree.nodes == machine.tree.nodes &&
    after.streams.take machine.streams.length == machine.streams

/-- Run a command beside what follows. One that sleeps first is left for later; another one
is done at once, however long it takes. -/
def inBackground (command : Command) (action : Action Unit) : Action Unit :=
  fun before =>
    let after := afterProcess action before
    let sleeper := fun (command : Command) =>
      { command := command
        bindings := before.bindings
        arguments := before.arguments
        descriptors := before.descriptors
        start := before.clock
        finish := after.clock : Sleeper }
    let waiting := fun (command : Command) (machine : Machine) =>
      { machine with
        status := 0
        clock := before.clock
        background := before.background ++ [sleeper command] }
    (.ok (), if sleepsFirst action before then waiting command before else waiting .nothing after)

/-- Run the body of a loop. The answer says whether the loop goes on. -/
def inLoop (action : Action Unit) : Action Bool :=
  restoring (fun before after => { after with loops := before.loops }) (fun before =>
    match action { before with loops := before.loops + 1 } with
    | (.ok _, after) => (.ok true, after)
    | (.error (.broken loops), after) =>
      (if loops ≤ 1 then .ok false else .error (.broken (loops - 1)), after)
    | (.error (.continued loops), after) =>
      (if loops ≤ 1 then .ok true else .error (.continued (loops - 1)), after)
    | (.error stop, after) => (.error stop, after))

/-- Leave or go on with so many loops, or all that there are. Outside of loops nothing
happens. -/
def leaveLoops (stop : Nat → Stop) (count : Nat) : Action Unit := do
  let machine ← get
  setStatus 0
  if machine.loops ≠ 0 then throw (stop (min count machine.loops))

/-- Run a script as far as it goes before it ends itself. -/
def untilExit (action : Action Unit) : Action Unit :=
  fun before =>
    match action before with
    | (.error .killed, after) => (.error .killed, after)
    | (.error .outOfTime, after) => (.error .outOfTime, after)
    | (_, after) => (.ok (), after)

/-- Run the body of a function: a return ends it. -/
def inFunction (action : Action Unit) : Action Unit :=
  fun before =>
    match action before with
    | (.error .returned, after) => (.ok (), after)
    | (result, after) => (result, after)

/-- Repeat a step on its own results as long as there are any. A loop that does not end
in so many turns is taken for one that runs into its deadline. -/
def repeatFrom {α : Type} : Nat → α → (α → Action (Option α)) → Action Unit
  | 0, _, _ => throw .outOfTime
  | turns + 1, value, step => do
    match ← step value with
    | some next => repeatFrom turns next step
    | none => return ()

/-- Do something with each item as long as it says so. -/
def forEachWhile {α : Type} (step : α → Action Bool) : List α → Action Unit
  | [] => pure ()
  | item :: rest => do
    if ← step item then forEachWhile step rest

end Action

end TexAtlas.Script
