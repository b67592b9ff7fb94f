/-
Files, known by their name. Two files with one name are the same file, whichever
path leads to it; the path only says where the source is and which engine fits.
-/

import TexAtlas.File.Role

namespace TexAtlas

structure File where
  name : String
  path : Option Path
  deriving DecidableEq, Repr

namespace File

/-- The file a path leads to. A path that names no file gives the empty name. -/
def ofPath (path : Path) : File :=
  { name := String.ofList ((path.fileName.getD []).map Text.Glyph.shown)
    path := some path }

/-- A name that no index knows a path for. -/
def unindexed (name : String) : File :=
  { name := name, path := none }

def role (file : File) : Role :=
  Role.ofName file.name

/-- Identity of files is identity of names. -/
def same (left right : File) : Bool :=
  left.name == right.name

/-- Whatever stands before the last dot. A dot at the beginning does not count. -/
def stemOf (name : List Char) : List Char :=
  let extension := (name.reverse.takeWhile (· != '.')).reverse
  match name.length - extension.length with
  | 0 | 1 => name
  | kept + 2 => name.take (kept + 1)

/-- File name without its extension, as a document loads it. -/
def stem (file : File) : String :=
  String.ofList (stemOf file.name.toList)

def format (file : File) : Format :=
  match file.path with
  | some path => Format.ofPath path
  | none => .latex

/-- The path of a file, or its name where no path is known. -/
def display (file : File) : String :=
  match file.path with
  | some path => path.display
  | none => file.name

end File

end TexAtlas
