/-
The programs that there are, and how a name leads to one.
-/

import TexAtlas.Script.Program.Files
import TexAtlas.Script.Program.Lines
import TexAtlas.Script.Program.Output

namespace TexAtlas.Script.Program

open TexAtlas.Host (Fault)

/-- Programs that the script itself brings along. -/
def builtIn? (name : List Char) : Option Program :=
  match String.ofList name with
  | "echo" => some echo
  | "printf" => some printf
  | "test" => some test
  | "[" => some test
  | "pwd" => some pwd
  | "true" => some (constantly 0)
  | ":" => some (constantly 0)
  | "false" => some (constantly 1)
  | _ => none

/-- Programs of the system. -/
def system? (name : List Char) : Option Program :=
  match String.ofList name with
  | "cat" => some cat
  | "echo" => some plainEcho
  | "printf" => some printf
  | "test" => some test
  | "[" => some test
  | "sleep" => some sleep
  | "pwd" => some pwd
  | "ls" => some ls
  | "rm" => some rm
  | "mkdir" => some mkdir
  | "rmdir" => some rmdir
  | "touch" => some touch
  | "cp" => some cp
  | "mv" => some mv
  | "ln" => some ln
  | "chmod" => some chmod
  | "head" => some head
  | "tail" => some tail
  | "wc" => some wc
  | "tee" => some tee
  | "tr" => some tr
  | "sort" => some sort
  | "uniq" => some uniq
  | "grep" => some grep
  | "basename" => some basename
  | "dirname" => some dirname
  | "seq" => some seq
  | "true" => some (constantly 0)
  | "false" => some (constantly 1)
  | _ => none

/-- Directories in which the programs of the system are. -/
def systemDirectories : List (List Char) :=
  ["/bin", "/usr/bin"].map String.toList

/-- The names of the interpreter of scripts. -/
def interpreterNames : List String := ["sh", "dash", "bash"]

/-- A path without separators and dots that do not count. -/
def plainPath (path : List Char) : List Char :=
  let parts := (Text.runs (· == '/') path).filter (· != ['.'])
  let joined := ['/'].intercalate parts
  if path.head? == some '/' then '/' :: joined else joined

/-- What a path leads to that can be started. -/
inductive Startable where
  | program (program : Program)
  /-- A script that names no interpreter. -/
  | script (text : List Char)
  /-- The interpreter of scripts. -/
  | interpreter
  /-- The program that starts another one with a changed environment. -/
  | environment

/-- What is started, the name it is started under, and the arguments that come before
those that are given. -/
structure Start where
  startable : Startable
  name : List Char
  leading : List (List Char)

/-- How many bytes at the beginning of a script are looked at. -/
def headLimit : Nat := 256

/-- The interpreter that the first line of a script names, and the one argument that may
follow it. A name that might go on behind the bytes that are looked at does not count. -/
def headOf (text : List Char) : Option (List Char × Option (List Char)) :=
  let isGap := fun (c : Char) => c == ' ' || c == '\t'
  match text.take headLimit with
  | '#' :: '!' :: rest =>
    let line := (rest.takeWhile (· != '\n')).dropWhile isGap
    let name := line.takeWhile (fun c => !isGap c)
    let argument := ((line.drop name.length).dropWhile isGap).reverse.dropWhile isGap |>.reverse
    let isCut := headLimit < text.length && !rest.contains '\n' && !line.any isGap
    if name.isEmpty || isCut then none
    else some (name, if argument.isEmpty then none else some argument)
  | _ => none

/-- The program of the system at a path. -/
def systemAt? (path : List Char) : Option Startable :=
  let (directory, name) := splitPath (plainPath path)
  if !systemDirectories.contains directory then none
  else if interpreterNames.contains (String.ofList name) then some .interpreter
  else if name == "env".toList then some .environment
  else (system? name).map .program

/-- What is at a path. A file has to be executable. If it names an interpreter, that is
started with the file as its argument; interpreters may be scripts themselves, up to a
number of them. -/
def startAt (machine : Machine) : Nat → List Char → Except Fault Start
  | 0, _ => .error .tooManyLinks
  | depth + 1, path =>
    match machine.tree.lookup (Machine.pathOf path) with
    | .ok (_, .file bytes true) =>
      let text := Text.Octets.ofBytes bytes
      match headOf text with
      | none => .ok ⟨.script text, path, []⟩
      | some (interpreter, argument) =>
        match startAt machine depth interpreter with
        | .error fault => .error fault
        | .ok ⟨.script _, _, _⟩ => .ok ⟨.script text, path, []⟩
        | .ok start => .ok { start with leading := start.leading ++ argument.toList ++ [path] }
    | .ok _ => .error .permissionDenied
    | .error fault =>
      match systemAt? path with
      | some found => .ok ⟨found, path, []⟩
      | none => .error fault

/-- How many files may lead from one to the next until a program is found. -/
def startDepth : Nat := 6

/-- The parts of a search path. -/
def searchPath (path : List Char) : List (List Char) :=
  Text.cutAt (· == ':') path

/-- The paths under which a program may be found. A name with a separator is its own
path. -/
def placesOf (search name : List Char) : List (List Char) :=
  if name.contains '/' then [name]
  else (searchPath search).map (fun directory =>
    if directory.isEmpty then name else directory ++ '/' :: name)

/-- The first of several places where something can be started. A place where nothing is
does not end the search, and one that may not be started is only remembered. -/
def findAmong (machine : Machine) : Fault → List (List Char) → Except Fault (List Char × Start)
  | fault, [] => .error fault
  | fault, place :: rest =>
    match startAt machine startDepth place with
    | .ok found => .ok (place, found)
    | .error .permissionDenied => findAmong machine .permissionDenied rest
    | .error _ => findAmong machine fault rest

/-- What was found at a place, under the name by which it was looked for. A script knows
itself by its place. -/
def Start.calledBy (name place : List Char) (start : Start) : Start :=
  match start.startable with
  | .script _ => start
  | _ => if start.name == place then { start with name := name } else start

/-- Find a program by its name, and the place where it is. -/
def find (machine : Machine) (search name : List Char) : Except Fault (List Char × Start) :=
  if name.isEmpty then .error .notFound
  else if name.contains '/' then
    (startAt machine startDepth name).map (fun found => (name, found))
  else
    (findAmong machine .notFound (placesOf search name)).map
      (fun (place, found) => (place, found.calledBy name place))

end TexAtlas.Script.Program
