/-
The state in which a script runs: the file tree, open streams, variables, and a clock
that only sleeping moves. Texts are lists of characters below 256, one for each byte.
-/

import TexAtlas.Host.Tree
import TexAtlas.Script.Syntax
import TexAtlas.Text.Octets

namespace TexAtlas.Script

open TexAtlas.Host (Device Fault Location Node Tree)
open TexAtlas.Text (Octets.ofBytes Octets.toBytes)

/-- What a stream is connected to. -/
inductive Channel where
  /-- Takes everything and has nothing. -/
  | nowhere
  | file (location : Location)
  | memory (content : List Char)
  deriving DecidableEq, Repr

structure Stream where
  channel : Channel
  offset : Nat
  /-- Always write at the end. -/
  appends : Bool
  deriving DecidableEq, Repr

structure Variable where
  name : List Char
  value : List Char
  /-- Handed on to programs. -/
  exported : Bool

/-- A command in the background that sleeps before it does anything, with what it knew when
it was started. -/
structure Sleeper where
  command : Command
  bindings : List Variable
  arguments : List (List Char)
  descriptors : List (Nat × Nat)
  start : Nat
  finish : Nat

structure Machine where
  tree : Tree
  /-- All streams ever opened. A descriptor refers to one by its number. -/
  streams : List Stream
  descriptors : List (Nat × Nat)
  bindings : List Variable
  functions : List (List Char × Command)
  /-- The name and the arguments of the script. -/
  name : List Char
  arguments : List (List Char)
  /-- What the last command came to; zero is success. -/
  status : Nat
  /-- What the last command came to whose output was taken up. -/
  outputStatus : Nat
  /-- Milliseconds since the start. -/
  clock : Nat
  /-- How many characters were moved by writing so far. -/
  moved : Nat
  /-- What is still to be done in the background. -/
  background : List Sleeper
  /-- When the run is cut off, if ever. -/
  deadline : Option Nat
  line : Nat
  /-- Stop where a command fails. -/
  stopsOnFailure : Bool
  /-- Refuse variables that are not set. -/
  strict : Bool
  /-- Take patterns for file names as they stand. -/
  literal : Bool
  /-- How many loops the current command is part of. -/
  loops : Nat
  /-- How many tests the current command is part of; within a test nothing stops. -/
  testing : Nat
  /-- Commands to be run at the end. -/
  farewell : Option (List Char)
  /-- Variables to be restored when the current function ends. -/
  saved : List (List Char × Option Variable)

/-- The number under which a script knows itself. -/
def ownProcess : List Char := "4242".toList

namespace Machine

/-! ### Variables -/

def findVariable (machine : Machine) (name : List Char) : Option Variable :=
  machine.bindings.find? (fun entry => entry.name == name)

def setVariable (machine : Machine) (name value : List Char) : Machine :=
  let exported := ((machine.findVariable name).map Variable.exported).getD false
  let others := machine.bindings.filter (fun entry => entry.name != name)
  { machine with bindings := others ++ [⟨name, value, exported⟩] }

def unsetVariable (machine : Machine) (name : List Char) : Machine :=
  { machine with
    bindings := machine.bindings.filter (fun entry => entry.name != name) }

/-- Put back what a variable was. -/
def restoreVariable (machine : Machine) (name : List Char) (before : Option Variable) :
    Machine :=
  let cleared := machine.unsetVariable name
  { cleared with bindings := cleared.bindings ++ before.toList }

def exportVariable (machine : Machine) (name : List Char) : Machine :=
  match machine.findVariable name with
  | none => machine
  | some _ =>
    { machine with bindings := machine.bindings.map (fun entry =>
        if entry.name == name then { entry with exported := true } else entry) }

/-- The value of a variable, an argument, or a special parameter. -/
def parameter? (machine : Machine) (name : List Char) : Option (List Char) :=
  match name with
  | ['#'] => some (toString machine.arguments.length).toList
  | ['?'] => some (toString machine.status).toList
  | ['$'] => some ownProcess
  | ['!'] => some []
  | ['-'] => some (if machine.stopsOnFailure then ['e'] else [])
  | ['0'] => some machine.name
  | c :: _ =>
    if c.isDigit then
      let position := (String.ofList name).toNat?.getD 0
      if position = 0 then some machine.name else machine.arguments[position - 1]?
    else (machine.findVariable name).map Variable.value
  | [] => none

/-- The characters at which expanded text is split. -/
def separators (machine : Machine) : List Char :=
  ((machine.findVariable "IFS".toList).map Variable.value).getD [' ', '\t', '\n']

/-! ### Streams -/

def pathOf (name : List Char) : Path :=
  Path.ofBytes (Octets.toBytes name)

/-- Open a stream and get its number. -/
def addStream (machine : Machine) (channel : Channel) (appends : Bool) : Nat × Machine :=
  (machine.streams.length,
    { machine with streams := machine.streams ++ [⟨channel, 0, appends⟩] })

def connect (machine : Machine) (descriptor number : Nat) : Machine :=
  { machine with descriptors :=
      (descriptor, number) :: machine.descriptors.filter (fun entry => entry.1 != descriptor) }

def disconnect (machine : Machine) (descriptor : Nat) : Machine :=
  { machine with
    descriptors := machine.descriptors.filter (fun entry => entry.1 != descriptor) }

def numberOf (machine : Machine) (descriptor : Nat) : Option Nat :=
  (machine.descriptors.find? (fun entry => entry.1 == descriptor)).map Prod.snd

def streamAt (machine : Machine) (descriptor : Nat) : Option (Nat × Stream) :=
  (machine.numberOf descriptor).bind (fun number =>
    machine.streams[number]?.map (fun stream => (number, stream)))

/-- Everything that a channel holds. -/
def contentOf (machine : Machine) : Channel → List Char
  | .nowhere => []
  | .memory content => content
  | .file location =>
    match machine.tree.node? location with
    | some (.file bytes _) => Octets.ofBytes bytes
    | _ => []

/-- Replace everything that a channel holds. -/
def fill (machine : Machine) (number : Nat) (stream : Stream) (content : List Char) : Machine :=
  match stream.channel with
  | .nowhere => machine
  | .memory _ =>
    { machine with
      streams := machine.streams.set number { stream with channel := .memory content } }
  | .file location =>
    let executable := match machine.tree.node? location with
      | some (.file _ executable) => executable
      | _ => false
    { machine with
      tree := machine.tree.put location (.file (Octets.toBytes content) executable)
      streams := machine.streams.set number stream }

/-- Write to a descriptor. The answer says whether it was open. -/
def write (machine : Machine) (descriptor : Nat) (text : List Char) : Bool × Machine :=
  match machine.streamAt descriptor with
  | none => (false, machine)
  | some (number, stream) =>
    let content := machine.contentOf stream.channel
    let size := content.length
    let offset := if stream.appends then size else stream.offset
    let filled := if offset = size then content ++ text
      else content.take offset ++ List.replicate (offset - size) '\x00' ++ text ++
        content.drop (offset + text.length)
    let counted := { machine with moved := machine.moved + filled.length }
    (true, counted.fill number { stream with offset := offset + text.length } filled)

/-- Write one line for people to read. -/
def report (machine : Machine) (text : List Char) : Machine :=
  (machine.write 2 (text ++ ['\n'])).2

/-- What is left to read from a descriptor. -/
def unread (machine : Machine) (descriptor : Nat) : List Char :=
  match machine.streamAt descriptor with
  | none => []
  | some (_, stream) => (machine.contentOf stream.channel).drop stream.offset

/-- Step over characters that were read. -/
def advance (machine : Machine) (descriptor count : Nat) : Machine :=
  match machine.streamAt descriptor with
  | none => machine
  | some (number, stream) =>
    { machine with
      streams := machine.streams.set number { stream with offset := stream.offset + count } }

/-- Read everything that is left. -/
def readAll (machine : Machine) (descriptor : Nat) : List Char × Machine :=
  let text := machine.unread descriptor
  (text, machine.advance descriptor text.length)

/-- The stream that a device stands for. -/
def openDevice (machine : Machine) (device : Device) : Nat × Machine :=
  let own := match device with
    | .output => machine.numberOf 1
    | .complaints => machine.numberOf 2
    | .nothing | .full => none
  match own with
  | some number => (number, machine)
  | none => machine.addStream .nowhere false

/-- Open a file as a redirection asks for it. -/
def openFile (machine : Machine) (opening : Opening) (name : List Char) :
    Except Fault (Nat × Machine) :=
  let path := pathOf name
  match opening, machine.tree.lookup path with
  | _, .ok (_, .device device) => .ok (machine.openDevice device)
  | .read, .ok (location, _) => .ok (machine.addStream (.file location) false)
  | .read, .error fault => .error fault
  | .append, .ok (location, .file _ _) => .ok (machine.addStream (.file location) true)
  | .readWrite, .ok (location, .file _ _) => .ok (machine.addStream (.file location) false)
  | _, _ =>
    match machine.tree.writeBytes path [], machine.tree.locate path with
    | .ok tree, .ok location =>
      .ok ({ machine with tree := tree }.addStream (.file location) (opening == Opening.append))
    | .error fault, _ => .error fault
    | _, .error fault => .error fault

/-! ### Files -/

/-- What a name leads to. -/
def nodeAt (machine : Machine) (name : List Char) : Option (Location × Node) :=
  (machine.tree.lookup (pathOf name)).toOption

/-- The name of a directory entry as bytes. -/
def entryName (name : List Text.Glyph) : List Char :=
  Octets.ofBytes (name.flatMap Text.Glyph.bytes)

/-- The names in a directory, in order. -/
def entries (machine : Machine) (location : Location) : List (List Char) :=
  ((machine.tree.namesIn location).map entryName).mergeSort (fun left right => !(right < left))

end Machine

end TexAtlas.Script
