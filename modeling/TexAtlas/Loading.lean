/-
Loading written files. A file that cannot be read and a file that does not hold what
it should are told apart.
-/

import TexAtlas.Component.Form
import TexAtlas.Configuration.Form
import TexAtlas.Failure
import TexAtlas.FileIndex.Listing
import TexAtlas.Host.Tree
import TexAtlas.Override.Form

namespace TexAtlas.Loading

open TexAtlas.Host (Tree)

/-- The text of a file. -/
def text (tree : Tree) (path : Path) : Except Failure String :=
  match tree.readText path with
  | .ok found => .ok found
  | .error fault => .error (.unreadable path.display fault.message)

/-- The value that a file holds in its written form. -/
def document {α : Type} (form : Json.Form α) (tree : Tree) (path : Path) :
    Except Failure α := do
  match form.readText (← text tree path) with
  | .ok found => .ok found
  | .error fault => .error (.malformed fault)

def kernel (tree : Tree) (path : Path) : Except Failure Kernel :=
  document Kernel.form tree path

def overrides (tree : Tree) (path : Path) : Except Failure (List OverrideEntry) :=
  document OverrideEntry.listForm tree path

/-- The overrides that a configuration names, or none. -/
def configuredOverrides (tree : Tree) (configuration : Configuration) :
    Except Failure (List OverrideEntry) :=
  match configuration.overridesFile with
  | some path => overrides tree path
  | none => .ok []

/-- The kernel that a configuration names, or an empty one. -/
def configuredKernel (tree : Tree) (configuration : Configuration) : Except Failure Kernel :=
  match configuration.kernelFile with
  | some path => kernel tree path
  | none => .ok .empty

/-- A file with a bad configuration is named together with the fault. -/
def configuration (processors : Nat) (tree : Tree) (path : Path) :
    Except Failure Configuration := do
  match (Configuration.form processors).readText (← text tree path) with
  | .ok found => .ok found
  | .error fault => .error (.misconfigured (path.display ++ ": " ++ fault.message))

/-- The configuration at a path, or the defaults. -/
def configurationOr (processors : Nat) (tree : Tree) :
    Option Path → Except Failure Configuration
  | some path => configuration processors tree path
  | none => .ok (.default processors)

/-- The name index of a distribution tree. -/
def nameIndex (tree : Tree) (root : Path) : Except Failure FileIndex := do
  return Listing.index root (← text tree (root.join (Path.ofString "ls-R")))

end TexAtlas.Loading
