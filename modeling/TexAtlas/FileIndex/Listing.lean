/-
The `ls-R` listing of a distribution: blocks of one directory each, a header line
`./dir:` followed by the names in it. Reading keeps the entries with an extension
that lie in the subtrees from which the engines load files.
-/

import TexAtlas.FileIndex
import TexAtlas.Text.Blank
import TexAtlas.Text.Find
import TexAtlas.Text.Lines

namespace TexAtlas.Listing

/-- Subtrees that hold files the engines can load. -/
def treeRoots : List String :=
  ["tex/plain", "tex/generic", "tex/latex", "tex/luatex", "tex/lualatex", "tex/xetex",
   "tex/xelatex"]

/-- A directory equal to the root or below it, whole segments only. -/
def liesIn (root directory : List Char) : Bool :=
  match Text.after? root directory with
  | some [] => true
  | some (c :: _) => c == '/'
  | none => false

/-- Whether the engines load files from a directory of the distribution. -/
def isTreeDirectory (directory : List Char) : Bool :=
  treeRoots.any (fun root => liesIn root.toList directory)

/-- The kinds of line in a listing. -/
inductive Line where
  | ignored
  | header (directory : List Char)
  | entry (name : List Char)
  deriving DecidableEq, Repr

/-- A directory name without the `./` it may begin with, however often. -/
def dropHere : List Char → List Char
  | '.' :: '/' :: rest => dropHere rest
  | directory => directory

/-- Blank lines and comments say nothing, a colon at the end makes a header. -/
def Line.read (line : List Char) : Line :=
  if line.all Text.isBlank || line.head? == some '%' then .ignored
  else if line.getLast? == some ':' then .header (dropHere line.dropLast)
  else .entry line

/-- Where the reader stands: the directory of the last header and whether its
entries count. Before the first header no entry counts. -/
structure Position where
  directory : Path
  wanted : Bool

/-- The file of an entry in the current directory, if it counts. -/
def fileOf (position : Position) (name : List Char) : Option File :=
  let path := position.directory.join (Path.ofChars name)
  if position.wanted && path.extension.isSome then some (File.ofPath path) else none

/-- All files of a listing in text order, names of one spelling included. -/
def filesFrom (root : Path) : Position → List (List Char) → List File
  | _, [] => []
  | position, line :: rest =>
    match Line.read line with
    | .ignored => filesFrom root position rest
    | .header directory =>
      filesFrom root ⟨root.join (Path.ofChars directory), isTreeDirectory directory⟩ rest
    | .entry name => (fileOf position name).toList ++ filesFrom root position rest

/-- The files a listing below `root` names, in text order. -/
def files (root : Path) (text : String) : List File :=
  filesFrom root ⟨root, false⟩ (Text.lines text.toList)

/-- The index of a listing: the first file of each name. -/
def index (root : Path) (text : String) : FileIndex :=
  FileIndex.ofList (files root text)

end TexAtlas.Listing
