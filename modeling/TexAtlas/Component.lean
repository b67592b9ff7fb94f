/-
Components: the unit to which symbols are attributed. A component is one file, or
several files that load each other, together with the commands and environments
that they define and the references that leave the group.
-/

import TexAtlas.Dependency
import TexAtlas.Name.Distinct
import TexAtlas.Name.Sorted

namespace TexAtlas

/-- Commands and environments built into the engine itself. -/
structure Kernel where
  commands : NameSet
  environments : NameSet
  deriving DecidableEq, Repr

namespace Kernel

def empty : Kernel :=
  { commands := .empty, environments := .empty }

def contains (kernel : Kernel) (symbol : String) : Bool :=
  kernel.commands.contains symbol || kernel.environments.contains symbol

end Kernel

structure Component where
  fileNames : List String
  references : List String
  commands : NameSet
  environments : NameSet
  deriving DecidableEq, Repr

namespace Component

/-- The references of all members in member order, each name once, without the
members themselves. -/
def outwardReferences (members : List Dependency) : List String :=
  let inside := members.map Dependency.name
  (NameSet.ofList
    ((members.flatMap (fun member => member.references.map File.name)).filter
      (fun name => !inside.contains name))).toList

/-- The component of a group of files. File names are sorted, so the result does not
depend on the member through which the group was entered. -/
def ofMembers (members : List Dependency) (commands environments : List String) : Component :=
  { fileNames := (SortedNames.ofList (members.map Dependency.name)).toList
    references := outwardReferences members
    commands := NameSet.ofList commands
    environments := NameSet.ofList environments }

/-- The symbols of the engine as a component without files. -/
def ofKernel (kernel : Kernel) : Component :=
  { fileNames := []
    references := []
    commands := kernel.commands
    environments := kernel.environments }

def containsFile (component : Component) (name : String) : Bool :=
  component.fileNames.contains name

def defines (component : Component) (symbol : String) : Bool :=
  component.commands.contains symbol || component.environments.contains symbol

/-- The component with more symbols after those it has. -/
def extended (component : Component) (commands environments : List String) : Component :=
  { component with
    commands := component.commands.extend commands
    environments := component.environments.extend environments }

end Component

end TexAtlas
