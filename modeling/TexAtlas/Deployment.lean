/-
Working on an installed distribution: its index, the kernel, and the engine that the
configuration names. The programs of the distribution may change the file tree, so the
answers come with the tree that is left.
-/

import TexAtlas.Host.Course
import TexAtlas.Loading
import TexAtlas.Session.Setup
import TexAtlas.Text.Blank
import TexAtlas.Text.Lines

namespace TexAtlas.Deployment

open TexAtlas.Host (Compiler Course System Tree)

/-- The first line of a text that is not blank, without the blanks around it. -/
def firstLine (text : String) : Option String :=
  (((Text.lines text.toList).map Text.trim).find? (fun line => !line.isEmpty)).map
    String.ofList

/-- The root of the distribution as the distribution reports it, and the system after it
was asked. -/
def reportedRoot (system : System) : Except Failure Path × System :=
  let program := Path.ofString "kpsewhich"
  match system.start system.tree program ["--var-value", "TEXMFDIST"] none with
  | .error fault => (.error (.unindexed ("failed to run kpsewhich: " ++ fault.message)), system)
  | .ok ended =>
    let after := { system with
      tree := { ended.machine.tree with current := system.tree.current } }
    match firstLine (Text.Utf8.decodeLossy (System.output ended)) with
    | some line => (.ok (Path.ofString line), after)
    | none => (.error (.unindexed "kpsewhich did not report TEXMFDIST"), after)

/-- The root that is configured, or else the one that is reported. -/
def root (system : System) (configuration : Configuration) : Except Failure Path × System :=
  match configuration.distribution with
  | some root => (.ok root, system)
  | none => reportedRoot system

def compiler (configuration : Configuration) : Compiler :=
  { programs := configuration.programs, scratch := configuration.scratch }

/-- The settings of a configuration on a system as it is, for a distribution at a root. -/
def settings (system : System) (configuration : Configuration) (root : Path) :
    Except Failure Settings := do
  let index ← Loading.nameIndex system.tree root
  let kernel ← Loading.configuredKernel system.tree configuration
  let course := Course.start system.tree
  Settings.ofConfiguration configuration index
    (course.engine (compiler configuration) system) kernel course.read

/-- Carry out a work on the installed distribution. The work ends with the session in which
it was done. -/
def carryOut {α : Type} (system : System) (configuration : Configuration)
    (work : Settings → α × Session) : Except Failure α × Tree :=
  let (found, ready) := root system configuration
  match found.bind (settings ready configuration) with
  | .error failure => (.error failure, ready.tree)
  | .ok initial =>
    let worked := fun engine read =>
      let chosen := { initial with engine := engine, read := read }
      let (result, session) := work chosen
      (result, session.calls chosen)
    let (result, left) := Course.complete (compiler configuration) ready worked
      Course.ampleCalls (.start ready.tree)
    (.ok result, left)

end TexAtlas.Deployment
