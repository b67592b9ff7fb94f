/-
A file tree as a value. Files and directories are kept under their location, the list
of names that lead to them from the root; looking up a path walks through directories
only. Changing a tree gives a new one.
-/

import TexAtlas.File.Basic
import TexAtlas.Host.Fault
import TexAtlas.Text.Octets

namespace TexAtlas.Host

open TexAtlas.Text (Glyph)

/-- The names that lead from the root to a file or directory. -/
abbrev Location := List (List Glyph)

/-- Files of a system that keep nothing. -/
inductive Device where
  /-- Takes everything. -/
  | nothing
  /-- Takes nothing. -/
  | full
  /-- What a program prints. -/
  | output
  /-- Where a program complains. -/
  | complaints
  deriving DecidableEq, Repr

inductive Node where
  | file (bytes : List UInt8) (executable : Bool)
  | directory
  | device (device : Device)
  deriving DecidableEq, Repr

structure Tree where
  nodes : List (Location × Node)
  /-- The directory in which relative paths begin. -/
  current : Location

/-- The location to which a path leads if all that it names are directories. -/
def Location.ofPath (start : Location) (path : Path) : Location :=
  path.steps.foldl
    (fun place segment =>
      match segment with
      | .named name => place ++ [name]
      | .parent => place.dropLast
      | .root | .here => place)
    (if path.isAbsolute then [] else start)

namespace Tree

/-- What is at a location. The root is always a directory. -/
def node? (tree : Tree) (location : Location) : Option Node :=
  if location.isEmpty then some .directory
  else (tree.nodes.find? (fun entry => entry.1 == location)).map Prod.snd

/-- Set what is at a location. -/
def put (tree : Tree) (location : Location) (node : Node) : Tree :=
  if tree.nodes.any (fun entry => entry.1 == location) then
    { tree with nodes := tree.nodes.map (fun entry =>
        if entry.1 == location then (location, node) else entry) }
  else { tree with nodes := tree.nodes ++ [(location, node)] }

def remove (tree : Tree) (location : Location) : Tree :=
  { tree with nodes := tree.nodes.filter (fun entry => entry.1 != location) }

/-- A directory with all directories above it, where they are missing. -/
def makeDirectory (tree : Tree) (location : Location) : Tree :=
  ((List.range (location.length + 1)).map location.take).foldl
    (fun tree part =>
      match tree.node? part with
      | some _ => tree
      | none => tree.put part .directory)
    tree

/-- A file with all directories above it, where they are missing. -/
def makeFile (tree : Tree) (location : Location) (bytes : List UInt8) (executable : Bool) :
    Tree :=
  (tree.makeDirectory location.dropLast).put location (.file bytes executable)

/-- The names of everything directly in a directory, in the order of the tree. -/
def namesIn (tree : Tree) (location : Location) : List (List Glyph) :=
  tree.nodes.filterMap (fun (place, _) =>
    if place.dropLast == location then place.getLast? else none)

/-- The longest name that a file can have, and the longest path that can be asked for, in
bytes. -/
def nameLimit : Nat := 255
def pathLimit : Nat := 4095

def byteLength (glyphs : List Glyph) : Nat :=
  (glyphs.flatMap Glyph.bytes).length

/-- One step of a walk: only a directory has anything in it. -/
def stepInto (tree : Tree) (place : Location) (segment : Path.Segment) :
    Except Fault Location :=
  match tree.node? place with
  | none => .error .notFound
  | some .directory =>
    match segment with
    | .root => .ok []
    | .here => .ok place
    | .parent => .ok place.dropLast
    | .named name =>
      if nameLimit < byteLength name then .error .nameTooLong else .ok (place ++ [name])
  | some _ => .error .notDirectory

/-- Whether a separator stands at the end of a path. -/
def hasSlashBehind (path : Path) : Bool :=
  path.glyphs.getLast? == some Path.slash

/-- The steps of a path as they are walked. A separator at the end asks for a
directory, as a `.` segment does. -/
def walkSteps (path : Path) : List Path.Segment :=
  path.steps ++ (if hasSlashBehind path then [Path.Segment.here] else [])

/-- What keeps a path from being walked at all. -/
def refusal? (path : Path) : Option Fault :=
  if path.glyphs.contains (.char '\x00') then some .cutName
  else if path.glyphs.isEmpty then some .notFound
  else if pathLimit < byteLength path.glyphs then some .nameTooLong
  else none

/-- Take steps from the place where a path begins. -/
def walk (tree : Tree) (path : Path) (steps : List Path.Segment) : Except Fault Location :=
  match refusal? path with
  | some fault => .error fault
  | none =>
    steps.foldlM (fun place segment => tree.stepInto place segment)
      (if path.isAbsolute then [] else tree.current)

/-- The location that a path leads to. The last name need not exist. -/
def locate (tree : Tree) (path : Path) : Except Fault Location :=
  tree.walk path (walkSteps path)

/-- One step of a walk on which missing directories are made. -/
def stepMaking (state : Location × Tree) (segment : Path.Segment) :
    Except Fault (Location × Tree) :=
  match state.2.stepInto state.1 segment with
  | .error fault => .error fault
  | .ok next =>
    match state.2.node? next with
    | some .directory => .ok (next, state.2)
    | some _ => .error .notDirectory
    | none => .ok (next, state.2.put next .directory)

/-- A directory with all directories on the way to it. Nothing but directories may be
on the way. The empty path leads to the directory where paths begin. -/
def makeDirectories (tree : Tree) (path : Path) : Except Fault Tree :=
  if path.glyphs.isEmpty then .ok tree
  else
    match refusal? path with
    | some fault => .error fault
    | none =>
      (path.steps.foldlM stepMaking (if path.isAbsolute then [] else tree.current, tree)).map
        Prod.snd

/-- What a path leads to. -/
def lookup (tree : Tree) (path : Path) : Except Fault (Location × Node) :=
  match tree.locate path with
  | .error fault => .error fault
  | .ok location =>
    match tree.node? location with
    | some node => .ok (location, node)
    | none => .error .notFound

def readBytes (tree : Tree) (path : Path) : Except Fault (List UInt8) :=
  match tree.lookup path with
  | .error fault => .error fault
  | .ok (_, .directory) => .error .isDirectory
  | .ok (_, .device _) => .ok []
  | .ok (_, .file bytes _) => .ok bytes

/-- The text of a file whose bytes are well formed throughout. -/
def readText (tree : Tree) (path : Path) : Except Fault String :=
  match tree.readBytes path with
  | .error fault => .error fault
  | .ok bytes =>
    match Text.Utf8.decode? bytes with
    | some text => .ok text
    | none => .error .notText

/-- The directory in which a path names a file to be written. A separator behind the name
asks for a directory, which is not written. -/
def writingPlace (tree : Tree) (path : Path) : Except Fault Location :=
  match path.steps.getLast?, hasSlashBehind path with
  | some (.named _), true =>
    match tree.walk path path.steps.dropLast with
    | .error fault => .error fault
    | .ok place =>
      match tree.node? place with
      | some .directory => .error .isDirectory
      | some _ => .error .notDirectory
      | none => .error .notFound
  | _, _ => tree.locate path

/-- Write a file. Its directory must exist; what was in the file is replaced. -/
def writeBytes (tree : Tree) (path : Path) (bytes : List UInt8) : Except Fault Tree :=
  match tree.writingPlace path with
  | .error fault => .error fault
  | .ok location =>
    match tree.node? location with
    | some .directory => .error .isDirectory
    | some (.device .full) => if bytes.isEmpty then .ok tree else .error .noSpace
    | some (.device _) => .ok tree
    | some (.file _ executable) => .ok (tree.put location (.file bytes executable))
    | none =>
      match tree.node? location.dropLast with
      | some .directory => .ok (tree.put location (.file bytes false))
      | some _ => .error .notDirectory
      | none => .error .notFound

end Tree

end TexAtlas.Host
