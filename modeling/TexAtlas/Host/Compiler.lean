/-
The engine as a program of the host. Every call gets a scratch directory of its own: the
document is written there, the program is started there, and the transcript is what it
left in its log. How the program ended does not matter as long as there is a log.
-/

import TexAtlas.Engine
import TexAtlas.Host.Process
import TexAtlas.Text.Quoted

namespace TexAtlas.Host

structure Compiler where
  /-- The directory of the engine programs, looked up by name where unset. -/
  programs : Option Path
  /-- Where scratch directories are made, the place for temporary files where unset. -/
  scratch : Option Path
  deriving DecidableEq, Repr

namespace Compiler

def sourceName : Path := Path.ofString "code.tex"

def logName : Path := Path.ofString "code.log"

/-- The name of a scratch directory. Each is gone before the next one is made. -/
def scratchName : String := "texscope-XXXXXX"

/-- The program for a format. -/
def program (compiler : Compiler) (format : Format) : Path :=
  match compiler.programs with
  | some directory => directory.join (Path.ofString format.program)
  | none => Path.ofString format.program

def arguments : List String :=
  ["-interaction=batchmode", "-shell-escape", sourceName.display]

/-- The path of the scratch directory and the tree in which it exists. -/
def makeScratch (compiler : Compiler) (system : System) : Except EngineFault (Location × Tree) :=
  let root := compiler.scratch.getD system.temporary
  let name := Path.ofString scratchName
  let path := root.join name
  let shown := if root.isAbsolute then path
    else (Path.ofBytes (Text.Octets.toBytes
      (Script.Program.placeName system.tree.current))).join path
  match system.tree.locate path with
  | .error fault =>
    .error (.io (fault.message ++ " at path " ++ Text.quoted shown.display))
  | .ok location => .ok (location, system.tree.put location .directory)

/-- What is read from the log that a program left. -/
def transcript (budget : Duration) (ended : Script.Ended) (tree : Tree) : Reply :=
  if !ended.inTime || budget.milliseconds ≤ ended.machine.clock then .fault (.timedOut budget)
  else
    match tree.readBytes logName with
    | .ok bytes => .transcript (Text.Utf8.decodeLossy bytes)
    | .error fault => .fault (.io fault.message)

/-- Compile a document. The answer comes with the tree that is left after the scratch
directory was removed. -/
def compile (compiler : Compiler) (system : System) (call : Call) : Reply × Tree :=
  match compiler.makeScratch system with
  | .error fault => (.fault fault, system.tree)
  | .ok (location, made) =>
    let inside := { made with current := location }
    let cleaned := fun (tree : Tree) =>
      { Script.Program.without tree location with current := system.tree.current }
    let source := call.document.toUTF8.toList
    match inside.writeBytes sourceName source with
    | .error fault => (.fault (.io fault.message), cleaned inside)
    | .ok ready =>
      let program := compiler.program call.format
      match system.start ready program arguments (some call.budget) with
      | .error fault => (.fault (.notStarted program.display fault.message), cleaned ready)
      | .ok ended =>
        let tree := { ended.machine.tree with current := location }
        (transcript call.budget ended tree, cleaned tree)

end Compiler

end TexAtlas.Host
