/-
Starting programs. What can be started are command scripts and the few programs of the
system; a program sees a file tree, an environment and its arguments, and leaves a
changed tree, its output and the time that it took.
-/

import TexAtlas.Duration
import TexAtlas.Script.Run

namespace TexAtlas.Host

/-- A computer as a program finds it. -/
structure System where
  tree : Tree
  home : Path
  /-- Where programs are looked for, separated by colons. -/
  searchPath : String
  /-- Where temporary files go unless another place is given. -/
  temporary : Path
  processors : Nat

namespace System

open TexAtlas.Text (Octets.ofString)

/-- The variables that every program is handed. -/
def environment (system : System) (directory : Location) : List Script.Variable :=
  [⟨"HOME".toList, Octets.ofString system.home.display, true⟩,
    ⟨"PATH".toList, Octets.ofString system.searchPath, true⟩,
    ⟨"PWD".toList, Script.Program.placeName directory, true⟩,
    ⟨"IFS".toList, [' ', '\t', '\n'], false⟩]

/-- The machine on which a program starts: nothing to read, its output kept, its
complaints dropped. -/
def machine (system : System) (tree : Tree) (deadline : Option Duration)
    (arguments : List String) : Script.Machine :=
  { tree := tree
    streams := [⟨.nowhere, 0, false⟩, ⟨.memory [], 0, true⟩, ⟨.nowhere, 0, false⟩]
    descriptors := [(0, 0), (1, 1), (2, 2)]
    bindings := system.environment tree.current
    functions := []
    name := []
    arguments := arguments.map Octets.ofString
    status := 0
    outputStatus := 0
    clock := 0
    moved := 0
    background := []
    deadline := deadline.map Duration.milliseconds
    line := 1
    stopsOnFailure := false
    strict := false
    literal := false
    loops := 0
    testing := 0
    farewell := none
    saved := [] }

/-- Run a program to its end or to its deadline. A script that names no interpreter
cannot be run. -/
def start (system : System) (tree : Tree) (program : Path) (arguments : List String)
    (deadline : Option Duration) : Except Fault Script.Ended :=
  let machine := system.machine tree deadline arguments
  let name := Text.Octets.ofBytes (program.glyphs.flatMap Text.Glyph.bytes)
  if name.contains '\x00' then .error .cutCommand
  else
    match Script.Program.find machine (Octets.ofString system.searchPath) name with
    | .error fault => .error fault
    | .ok (_, ⟨.script _, _, _⟩) => .error .badExecutable
    | .ok (_, start) => .ok (Script.launch machine start machine.arguments)

/-- What a program wrote. -/
def output (ended : Script.Ended) : List UInt8 :=
  match ended.machine.streams[1]? with
  | some stream => Text.Octets.toBytes (ended.machine.contentOf stream.channel)
  | none => []

end System

end TexAtlas.Host
