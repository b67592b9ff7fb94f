/-
Programs that list, make, move and remove files.
-/

import TexAtlas.Script.Program.Basic

namespace TexAtlas.Script.Program

open TexAtlas.Host (Fault Location Node Tree)

def ls : Program := fun name arguments machine =>
  let (flags, names) := options arguments
  let shown := fun (entry : List Char) =>
    flags.contains 'a' || flags.contains 'A' || entry.head? != some '.'
  let special := if flags.contains 'a' then [['.'], ['.', '.']] else []
  forEach (if names.isEmpty then [['.']] else names)
    (fun argument machine =>
      match machine.tree.lookup (Machine.pathOf argument) with
      | .ok (location, .directory) =>
        let listed := if flags.contains 'd' then [argument]
          else special ++ (machine.entries location).filter shown
        put (listed.flatMap (fun entry => entry ++ ['\n'])) machine
      | .ok _ => put (argument ++ ['\n']) machine
      | .error fault => (2, complainThat name "cannot access" argument fault machine)) machine

/-- Whether a path ends in a step that is no name. -/
def endsUnnamed (path : Path) : Bool :=
  match path.steps.getLast? with
  | some .here | some .parent => true
  | _ => false

def rm : Program := fun name arguments machine =>
  let (flags, names) := options arguments
  let recursive := flags.contains 'r' || flags.contains 'R'
  let refuse := fun (argument : List Char) (fault : Fault) (machine : Machine) =>
    (1, complainThat name "cannot remove" argument fault machine)
  forEach names (fun argument machine =>
    let path := Machine.pathOf argument
    if recursive && endsUnnamed path then (1, machine)
    else
      match machine.tree.lookup path with
      | .ok (location, .file _ _) => (0, { machine with tree := machine.tree.remove location })
      | .ok (_, .device _) => refuse argument .permissionDenied machine
      | .ok (location, .directory) =>
        if recursive then (0, { machine with tree := without machine.tree location })
        else refuse argument .isDirectory machine
      | .error fault =>
        if flags.contains 'f' then (0, machine) else refuse argument fault machine)
    machine

/-- Remove directories that are empty. -/
def rmdir : Program := fun name arguments machine =>
  forEach (options arguments).2 (fun argument machine =>
    match machine.tree.lookup (Machine.pathOf argument) with
    | .ok (location, .directory) =>
      if (machine.entries location).isEmpty then
        (0, { machine with tree := machine.tree.remove location })
      else (1, machine)
    | .ok _ => (1, complain name argument .notDirectory machine)
    | .error fault => (1, complain name argument fault machine)) machine

def mkdir : Program := fun name arguments machine =>
  let (flags, names) := options arguments
  forEach names (fun argument machine =>
    let path := Machine.pathOf argument
    if flags.contains 'p' then
      match machine.tree.makeDirectories path with
      | .ok tree => (0, { machine with tree := tree })
      | .error fault => (1, complainThat name "cannot create directory" argument fault machine)
    else
      match machine.tree.locate path with
      | .error fault => (1, complainThat name "cannot create directory" argument fault machine)
      | .ok location =>
        if (machine.tree.node? location).isSome then (1, machine)
        else if machine.tree.node? location.dropLast == some .directory then
          (0, { machine with tree := machine.tree.put location .directory })
        else (1, complainThat name "cannot create directory" argument .notFound machine)) machine

def touch : Program := fun name arguments machine =>
  forEach (options arguments).2 (fun argument machine =>
    if (machine.nodeAt argument).isSome then (0, machine)
    else
      match machine.tree.writeBytes (Machine.pathOf argument) [] with
      | .ok tree => (0, { machine with tree := tree })
      | .error fault => (1, complain name argument fault machine)) machine

/-- The path under which a file arrives: in a directory it keeps its name. -/
def arrival (machine : Machine) (location : Location) (target : List Char) : Path :=
  match machine.nodeAt target with
  | some (_, .directory) => (Machine.pathOf target).join ⟨location.getLast?.getD []⟩
  | _ => Machine.pathOf target

/-- Copy one file. A copy that is new can be executed where the file can. -/
def copyFile (name target source : List Char) (machine : Machine) : Nat × Machine :=
  match machine.tree.lookup (Machine.pathOf source) with
  | .ok (location, .file bytes executable) =>
    let path := arrival machine location target
    let isNew := (machine.tree.lookup path).toOption.isNone
    match machine.tree.writeBytes path bytes, machine.tree.locate path with
    | .ok tree, .ok place =>
      (0, { machine with
        tree := if isNew then tree.put place (.file bytes executable) else tree })
    | .error fault, _ | _, .error fault => (1, complain name target fault machine)
  | .ok (_, .device _) =>
    match machine.tree.writeBytes (Machine.pathOf target) [] with
    | .ok tree => (0, { machine with tree := tree })
    | .error fault => (1, complain name target fault machine)
  | .ok (_, .directory) => (1, machine)
  | .error fault => (1, complain name source fault machine)

/-- The tree after everything at one place was moved to another. -/
def relocate (tree : Tree) (source target : Location) : Tree :=
  let moved := tree.nodes.filterMap (fun (place, node) =>
    if source.isPrefixOf place then some (target ++ place.drop source.length, node) else none)
  let left := without (without tree source) target
  { left with nodes := left.nodes ++ moved }

/-- Move one file or directory. -/
def moveFile (name target source : List Char) (machine : Machine) : Nat × Machine :=
  match machine.tree.lookup (Machine.pathOf source) with
  | .error fault => (1, complain name source fault machine)
  | .ok (location, _) =>
    match machine.tree.locate (arrival machine location target) with
    | .error fault => (1, complain name target fault machine)
    | .ok place =>
      if location.isPrefixOf place || machine.tree.node? place == some .directory then (1, machine)
      else if machine.tree.node? place.dropLast == some .directory then
        (0, { machine with tree := relocate machine.tree location place })
      else (1, complain name target .notFound machine)

/-- Handle each source for a target, which has to be a directory where there are several. -/
def towards (handle : List Char → List Char → List Char → Machine → Nat × Machine) : Program :=
  fun name arguments machine =>
    let names := (options arguments).2
    match names.getLast?, names.dropLast with
    | some target, [source] => handle name target source machine
    | some target, source :: sources =>
      match machine.nodeAt target with
      | some (_, .directory) => forEach (source :: sources) (handle name target) machine
      | _ => (1, machine)
    | _, _ => (1, machine)

/-- Give a file a second name. The name keeps what the file holds now. A symbolic name may
also be given to what is no file; it then leads nowhere. -/
def linkFile (symbolic forced : Bool) (name target source : List Char) (machine : Machine) :
    Nat × Machine :=
  match machine.tree.lookup (Machine.pathOf source) with
  | .ok (location, .file bytes executable) =>
    let path := arrival machine location target
    if (machine.tree.lookup path).toOption.isSome && !forced then (1, machine)
    else
      match machine.tree.writeBytes path bytes, machine.tree.locate path with
      | .ok tree, .ok place =>
        (0, { machine with tree := tree.put place (.file bytes executable) })
      | .error fault, _ | _, .error fault => (1, complain name target fault machine)
  | .ok _ => (if symbolic then 0 else 1, machine)
  | .error fault =>
    if symbolic then (0, machine)
    else (1, complainThat name "failed to access" source fault machine)

def cp : Program := towards copyFile

def ln : Program := fun name arguments machine =>
  let flags := (options arguments).1
  towards (linkFile (flags.contains 's') (flags.contains 'f')) name arguments machine

def mv : Program := towards moveFile

/-- Whether files can be executed under a mode, where it says so. -/
def executableUnder? (mode : List Char) : Option Bool :=
  if !mode.isEmpty && mode.all (fun c => '0' ≤ c && c ≤ '7') then
    some (mode.reverse.take 3 |>.any (fun c => (c.toNat - 48) % 2 == 1))
  else
    let change := mode.dropWhile (fun c => c == 'u' || c == 'g' || c == 'o' || c == 'a')
    match change with
    | '+' :: rights => if rights.contains 'x' then some true else none
    | '-' :: rights => if rights.contains 'x' then some false else none
    | '=' :: rights => some (rights.contains 'x')
    | _ => none

/-- Change whether files can be executed. -/
def chmod : Program := fun name arguments machine =>
  match arguments with
  | [] => (1, machine)
  | mode :: names =>
    forEach names (fun argument machine =>
      match machine.tree.lookup (Machine.pathOf argument) with
      | .ok (location, .file bytes executable) =>
        let node := Node.file bytes ((executableUnder? mode).getD executable)
        (0, { machine with tree := machine.tree.put location node })
      | .ok _ => (0, machine)
      | .error fault => (1, complainThat name "cannot access" argument fault machine)) machine

end TexAtlas.Script.Program
