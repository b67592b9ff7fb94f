/-
Tagged lines in a transcript: a name that is defined is reported on a line of its own,
as a command or as an environment. A name reported as an environment is no command.
-/

import TexAtlas.Name.Sorted
import TexAtlas.Text.Blank
import TexAtlas.Text.Find
import TexAtlas.Text.Lines

namespace TexAtlas.Probe

/-- The names confirmed for a file. -/
structure Classification where
  commands : SortedNames
  environments : SortedNames
  deriving DecidableEq, Repr

def Classification.empty : Classification :=
  { commands := .empty, environments := .empty }

def Classification.isEmpty (classification : Classification) : Bool :=
  classification.commands.isEmpty && classification.environments.isEmpty

/-- What may follow the name on a tagged line. -/
def isLinePadding (c : Char) : Bool :=
  c == ' ' || c == '\t' || c == '\r'

/-- The name on a line that carries the tag: everything up to the first blank, which
must not be empty and must have only padding after it. -/
def taggedName (tag : String) (line : List Char) : Option String :=
  match Text.after? tag.toList line with
  | none => none
  | some rest =>
    let name := rest.takeWhile (fun c => !Text.isBlank c)
    let padding := rest.dropWhile (fun c => !Text.isBlank c)
    if !name.isEmpty && padding.all isLinePadding then some (String.ofList name) else none

def commandTag : String := "cmd:"

def environmentTag : String := "env:"

/-- The names that lines of a transcript report under a tag. -/
def taggedNames (tag : String) (transcript : String) : SortedNames :=
  SortedNames.ofList ((Text.rawLines transcript.toList).filterMap (taggedName tag))

/-- What the tagged lines of a transcript say. -/
def readTagged (transcript : String) : Classification :=
  let environments := taggedNames environmentTag transcript
  { commands := (taggedNames commandTag transcript).filter
      (fun name => !environments.contains name)
    environments := environments }

end TexAtlas.Probe
