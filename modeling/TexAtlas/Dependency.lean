/-
What a file loads. A dependency pairs a file with the files loaded along with it;
its references are the classes and styles among them, which are the edges of the
reference graph.
-/

import TexAtlas.File.Basic

namespace TexAtlas

/-- How the files of a dependency were found out. -/
inductive Discovery where
  | discovered
  /-- The engine gave no list; the file is treated as loading nothing else. -/
  | degraded (reason : String)
  deriving DecidableEq, Repr

structure Dependency where
  file : File
  /-- The other files loaded, in load order. -/
  loaded : List File
  discovery : Discovery
  deriving DecidableEq, Repr

/-- The first file of each name, names in `seen` left out. -/
def firstOfEachName (seen : List String) : List File → List File
  | [] => []
  | file :: rest =>
    if seen.contains file.name then firstOfEachName seen rest
    else file :: firstOfEachName (file.name :: seen) rest

namespace Dependency

/-- A file never counts among the files it loads. -/
def ofDiscovered (file : File) (found : List File) : Dependency :=
  { file := file
    loaded := found.filter (fun other => !other.same file)
    discovery := .discovered }

def degraded (file : File) (reason : String) : Dependency :=
  { file := file, loaded := [], discovery := .degraded reason }

def name (dependency : Dependency) : String :=
  dependency.file.name

/-- Every file loaded when the file is compiled, the file itself first. -/
def includes (dependency : Dependency) : List File :=
  dependency.file :: dependency.loaded

/-- Loaded classes and styles other than the file itself, each name once. -/
def references (dependency : Dependency) : List File :=
  firstOfEachName []
    (dependency.includes.filter
      (fun loaded => !loaded.same dependency.file && loaded.role.isComponent))

end Dependency

end TexAtlas
