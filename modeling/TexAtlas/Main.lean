/-
The program. It takes up the part of the file system that an invocation is about, runs the
invocation on it, and writes back what changed. A file can be executed where it names its
interpreter.
-/

import TexAtlas.Command.Run
import TexAtlas.File.Form

namespace TexAtlas.Disk

open TexAtlas.Host (Location Node System Tree)

/-- The path of a location. -/
def pathOf (location : Location) : String :=
  "/" ++ (Path.display ⟨[Path.slash].intercalate location⟩)

/-- Take up everything on disk at a path and below. -/
partial def load (tree : Tree) (path : Path) : IO Tree := do
  let place := Location.ofPath tree.current path
  let found := (← IO.currentDir) / pathOf place
  if ← found.isDir then
    (← found.readDir).foldlM
      (fun tree entry => load tree (Path.ofString entry.path.toString))
      (tree.makeDirectory place)
  else if ← found.pathExists then
    let bytes := (← IO.FS.readBinFile found).toList
    let executable := (Script.Program.headOf (Text.Octets.ofBytes bytes)).isSome
    return tree.makeFile place bytes executable
  else return tree

/-- The paths that a configuration names, and the programs that it needs. -/
def pathsOf (search : String) (configuration : Configuration) : List Path :=
  let directories := match configuration.programs with
    | some directory => [directory]
    | none => (search.splitOn ":").map Path.ofString
  let programs := ("kpsewhich" :: (Format.all.map Format.program)).map Path.ofString
  [configuration.distribution, configuration.kernelFile, configuration.overridesFile,
    configuration.scratch].filterMap (fun path => path) ++
    directories.flatMap (fun directory => programs.map directory.join)

/-- The system as an invocation finds it. -/
def systemFor (arguments : List String) : IO System := do
  let home := Path.ofString ((← IO.getEnv "HOME").getD ".")
  let search := (← IO.getEnv "PATH").getD ""
  let temporary := Path.ofString ((← IO.getEnv "TMPDIR").getD "/tmp")
  let current := Path.ofString (← IO.currentDir).toString
  let place := Location.ofPath [] current
  let bare : Tree := { nodes := [], current := place }
  let system : System :=
    { tree := (bare.makeDirectory place).makeDirectory (Location.ofPath place temporary)
      home := home
      searchPath := search
      temporary := temporary
      processors := 1 }
  match Invocation.ofArguments arguments with
  | .error _ => return system
  | .ok invocation =>
    let tree ← (current :: invocation.configuration.toList).foldlM load system.tree
    let configured := { system with tree := tree }
    match Command.configurationOf configured invocation with
    | .error _ => return configured
    | .ok configuration =>
      return { configured with tree := ← (pathsOf search configuration).foldlM load tree }

/-- Write to disk what is in a tree and was not in the one before. -/
def save (before after : Tree) : IO Unit := do
  for (place, node) in after.nodes do
    if before.node? place != some node then
      match node with
      | .directory => IO.FS.createDirAll (pathOf place)
      | .file bytes _ => IO.FS.writeBinFile (pathOf place) ⟨bytes.toArray⟩
      | .device _ => pure ()
  for (place, node) in before.nodes do
    match node with
    | .file _ _ => if (after.node? place).isNone then IO.FS.removeFile (pathOf place)
    | _ => pure ()

end TexAtlas.Disk

/-- Run the program with its arguments. The result is its status. -/
def main (arguments : List String) : IO UInt32 := do
  let system ← TexAtlas.Disk.systemFor arguments
  let ending := TexAtlas.Command.run system arguments
  TexAtlas.Disk.save system.tree ending.tree
  IO.print ending.output
  match ending.complaint with
  | some complaint => IO.eprintln ("Error: " ++ complaint.message)
  | none => pure ()
  return ending.status.toUInt32
