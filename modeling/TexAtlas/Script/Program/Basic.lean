/-
Programs that a script can start. A program reads and changes the machine and ends
with a status. It is called by the name it was started under, which it uses when it
complains.
-/

import TexAtlas.Script.Machine

namespace TexAtlas.Script

open TexAtlas.Host (Fault Location Tree)

/-- What a program does, given its name and its arguments. -/
abbrev Program := List Char → List (List Char) → Machine → Nat × Machine

namespace Program

/-- The text of a fault without its number. -/
def faultText : Fault → String
  | .notFound => "No such file or directory"
  | .permissionDenied => "Permission denied"
  | .badExecutable => "Exec format error"
  | .notDirectory => "Not a directory"
  | .isDirectory => "Is a directory"
  | .nameTooLong => "File name too long"
  | .tooManyLinks => "Too many levels of symbolic links"
  | .noSpace => "No space left on device"
  | .cutName | .cutCommand | .notText | .noPath _ => "Input/output error"

/-- Say what went wrong with a file. -/
def complain (name argument : List Char) (fault : Fault) (machine : Machine) : Machine :=
  machine.report (name ++ ": ".toList ++ argument ++ ": ".toList ++ (faultText fault).toList)

/-- Say what could not be done with a file. -/
def complainThat (name : List Char) (what : String) (argument : List Char) (fault : Fault)
    (machine : Machine) : Machine :=
  complain name ((what ++ " '").toList ++ argument ++ ['\'']) fault machine

/-- Write to the output. A closed output is a failure. -/
def put (text : List Char) (machine : Machine) : Nat × Machine :=
  let (isOpen, after) := machine.write 1 text
  (if isOpen then 0 else 1, after)

/-- Do something for each argument. The program fails where it failed for any. -/
def forEach (arguments : List (List Char)) (step : List Char → Machine → Nat × Machine)
    (machine : Machine) : Nat × Machine :=
  arguments.foldl
    (fun (status, machine) argument =>
      let (found, after) := step argument machine
      (max status found, after))
    (0, machine)

/-- The arguments before and after the options in front of them. -/
def options (arguments : List (List Char)) : List Char × List (List Char) :=
  let isOption := fun (argument : List Char) =>
    argument.head? == some '-' && argument.length > 1
  let flags := arguments.takeWhile isOption
  ((flags.map (fun flag => flag.drop 1)).flatten.filter (· != '-'),
    arguments.drop flags.length)

/-- The text of a file, or of the input for a lone dash. -/
def source (name argument : List Char) (machine : Machine) :
    Except Machine (List Char × Machine) :=
  if argument == ['-'] then
    if (machine.streamAt 0).isSome then .ok (machine.readAll 0)
    else .error (machine.report (name ++ ": -: Bad file descriptor".toList))
  else
    match machine.tree.readBytes (Machine.pathOf argument) with
    | .ok bytes => .ok (Text.Octets.ofBytes bytes, machine)
    | .error fault => .error (complain name argument fault machine)

/-- Print what a function makes of each source. -/
def filter (make : List Char → List Char) : Program := fun name arguments machine =>
  forEach (if arguments.isEmpty then [['-']] else arguments)
    (fun argument machine =>
      match source name argument machine with
      | .ok (text, after) => put (make text) after
      | .error after => (1, after)) machine

def constantly (status : Nat) : Program := fun _ _ machine => (status, machine)

/-- The name of a place in the tree, as bytes. -/
def placeName (location : Location) : List Char :=
  if location.isEmpty then ['/'] else location.flatMap (fun name => '/' :: Machine.entryName name)

/-- The tree without a place and everything below it. -/
def without (tree : Tree) (location : Location) : Tree :=
  { tree with nodes := tree.nodes.filter (fun entry => !location.isPrefixOf entry.1) }

end Program

end TexAtlas.Script
