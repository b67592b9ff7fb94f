/-
From expanded words to arguments: what came from expansions is split at separators,
and patterns are replaced by the names they fit.
-/

import TexAtlas.Script.Glob
import TexAtlas.Script.Machine
import TexAtlas.Text.Cut

namespace TexAtlas.Script

/-- A part of an expanded word. -/
inductive Chunk where
  /-- Stands as it is. -/
  | letter (mark : Mark)
  /-- Comes from an expansion and may be split. -/
  | value (c : Char)
  /-- Something was quoted here, so there is an argument even if it is empty. -/
  | present
  /-- One argument of a list ends and the next one begins. -/
  | boundary
  /-- A quoted list of arguments without any. -/
  | vanished
  deriving DecidableEq, Repr

namespace Chunk

def isSpace (c : Char) : Bool :=
  c == ' ' || c == '\t' || c == '\n'

def ofText (quoted : Bool) (text : List Char) : List Chunk :=
  if quoted then .present :: text.map (fun c => .letter ⟨c, true⟩)
  else text.map (fun c => .letter ⟨c, false⟩)

/-- The value of an expansion. -/
def ofValue (quoted : Bool) (text : List Char) : List Chunk :=
  if quoted then ofText true text else text.map .value

/-- Unquoted text inside of an expansion is split like a value. -/
def soften : Chunk → Chunk
  | .letter ⟨c, false⟩ => .value c
  | chunk => chunk

/-- The marks of a word that is not split. -/
def marks (chunks : List Chunk) : List Mark :=
  chunks.flatMap (fun chunk =>
    match chunk with
    | .letter mark => [mark]
    | .value c => [⟨c, false⟩]
    | .boundary => [⟨' ', false⟩]
    | .present | .vanished => [])

/-- The text of a word that is not split. -/
def text (chunks : List Chunk) : List Char :=
  (marks chunks).map Mark.char

/-- Words in the making: those that are finished, the current one, and whether white
space ended the last one. Both lists are kept in reverse. -/
structure Splitting where
  done : List (List Mark)
  current : Option (List Mark)
  afterSpace : Bool

namespace Splitting

def finish (splitting : Splitting) (afterSpace : Bool) : Splitting :=
  match splitting.current with
  | some word => ⟨word.reverse :: splitting.done, none, afterSpace⟩
  | none => { splitting with afterSpace := splitting.afterSpace || afterSpace }

def add (splitting : Splitting) (mark : Mark) : Splitting :=
  { splitting with current := some (mark :: splitting.current.getD []), afterSpace := false }

/-- Take in one chunk. White space only ends words; any other separator also begins
one, unless white space has just done so. -/
def step (separators : List Char) (splitting : Splitting) : Chunk → Splitting
  | .letter mark => splitting.add mark
  | .present => { splitting with current := some (splitting.current.getD []) }
  | .vanished =>
    if splitting.current == some [] then { splitting with current := none } else splitting
  | .boundary => splitting.finish false
  | .value c =>
    if !separators.contains c then splitting.add ⟨c, false⟩
    else if isSpace c then splitting.finish true
    else if splitting.current.isSome then splitting.finish false
    else if splitting.afterSpace then { splitting with afterSpace := false }
    else { splitting with done := [] :: splitting.done }

end Splitting

/-- The words that chunks are split into. -/
def words (separators : List Char) (chunks : List Chunk) : List (List Mark) :=
  ((chunks.foldl (Splitting.step separators) ⟨[], none, false⟩).finish false).done.reverse

end Chunk

namespace Machine

/-- The names in a directory that fit a pattern. A dot in front has to be written out. -/
def entriesLike (machine : Machine) (directory : List Char) (pattern : List Mark) :
    List (List Char) :=
  let shown := fun (name : List Char) =>
    name.head? != some '.' || (pattern.head?.map Mark.char) == some '.'
  match machine.nodeAt (if directory.isEmpty then ['.'] else directory) with
  | some (location, .directory) =>
    (machine.entries location).filter
      (fun name => shown name && (Glob.ofWord pattern).accepts name)
  | _ => []

/-- The paths that a pattern stands for, segment by segment. -/
def pathsLike (machine : Machine) : List (List Char) → List (List Mark) → List (List Char)
  | paths, [] => paths
  | paths, [segment] =>
    if Glob.isActive segment then
      paths.flatMap (fun path =>
        (machine.entriesLike path segment).map (fun name => path ++ name))
    else
      (paths.map (fun path => path ++ segment.map Mark.char)).filter
        (fun path => (machine.nodeAt path).isSome)
  | paths, segment :: next :: rest =>
    let found :=
      if Glob.isActive segment then
        paths.flatMap (fun path =>
          (machine.entriesLike path segment).map (fun name => path ++ name))
      else paths.map (fun path => path ++ segment.map Mark.char)
    pathsLike machine (found.map (fun path => path ++ ['/'])) (next :: rest)

/-- The arguments that a word stands for: the paths that fit it, or the word itself. -/
def argumentsOf (machine : Machine) (word : List Mark) : List (List Char) :=
  if !machine.literal && Glob.isActive word then
    let segments := Text.cutAt (fun mark => mark.char == '/') word
    match machine.pathsLike [[]] segments with
    | [] => [word.map Mark.char]
    | found => found
  else [word.map Mark.char]

end Machine

end TexAtlas.Script
