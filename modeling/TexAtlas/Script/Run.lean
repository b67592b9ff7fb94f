/-
Running scripts. The number that all functions count down bounds how deep commands nest;
a script that nests deeper is taken for one that runs into its deadline.
-/

import TexAtlas.Script.Action
import TexAtlas.Script.Program
import TexAtlas.Script.Reader
import TexAtlas.Script.Reading
import TexAtlas.Script.Sum

namespace TexAtlas.Script

open TexAtlas.Host (Fault)

/-- How often a loop may turn. -/
def turnLimit : Nat := 20000

/-- How deep commands may nest. -/
def nestingLimit : Nat := 20000

/-- Commands that change the script itself. Where they fail, the script ends. -/
def isSpecial (name : List Char) : Bool :=
  ["break", "continue", "exit", "return", ".", "eval", "exec", "export", "readonly", "set",
    "shift", "unset", "trap", ":", "times"].contains (String.ofList name)

/-- Whether a name stands for something that needs no program. -/
def isBuiltIn (name : List Char) : Bool :=
  isSpecial name || (Program.builtIn? name).isSome ||
    ["cd", "command", "kill", "local", "read", "umask", "wait", "type"].contains
      (String.ofList name)

/-- The rights that new files are made without. -/
def usualMask : List Char := "0022\n".toList

/-- The number that an argument gives. A word that is no number ends the run. -/
def Action.numberFrom (arguments : List (List Char)) (absent : Nat) : Action Nat :=
  match arguments with
  | [] => return absent
  | word :: _ =>
    if !word.isEmpty && word.all Char.isDigit then
      return word.foldl (fun value digit => value * 10 + (digit.toNat - 48)) 0
    else Action.refuse ("Illegal number: " ++ String.ofList word)

/-- Open what a redirection names. -/
def Action.openFor (descriptor : Nat) (opening : Opening) (name : List Char) : Action Bool := do
  let machine ← get
  match machine.openFile opening name with
  | .ok (number, after) =>
    set (after.connect descriptor number)
    return true
  | .error fault =>
    let reason := match opening, fault with
      | .read, _ => "No such file"
      | _, .isDirectory => "Is a directory"
      | _, _ => "Directory nonexistent"
    let verb := if opening == .read then "cannot open " else "cannot create "
    Action.report (verb ++ String.ofList name ++ ": " ++ reason)
    Action.setStatus 2
    return false

/-- Join a descriptor to another one, or close it. -/
def Action.duplicate (descriptor : Nat) (source : List Char) : Action Bool := do
  let machine ← get
  if source == ['-'] then
    set (machine.disconnect descriptor)
    return true
  else
    match (String.ofList source).toNat?.bind machine.numberOf with
    | some number =>
      set (machine.connect descriptor number)
      return true
    | none =>
      Action.report (String.ofList source ++ ": Bad file descriptor")
      Action.setStatus 2
      return false

/-- Start a program, which takes the status and the time that it takes. -/
def Action.start (program : Program) (name : List Char) (arguments : List (List Char)) :
    Action Unit := do
  let (status, after) := program name arguments (← get)
  set { after with status := status }
  Action.checkDeadline

/-- The machine on which another script begins. -/
def Machine.forScript (machine : Machine) (name : List Char) (arguments : List (List Char)) :
    Machine :=
  { machine with
    bindings := machine.bindings.filter Variable.exported
    functions := []
    name := name
    arguments := arguments
    stopsOnFailure := false
    strict := false
    literal := false
    loops := 0
    testing := 0
    farewell := none
    saved := [] }

/-- What a signal does to a script that does not catch it. -/
inductive SignalEffect where
  | nothing
  | stops
  | ends

/-- The effect of a signal by its name or number. -/
def signalEffect (signal : List Char) : SignalEffect :=
  match String.ofList signal with
  | "0" | "CHLD" | "17" | "CONT" | "18" | "URG" | "23" | "WINCH" | "28" => .nothing
  | "STOP" | "19" | "TSTP" | "20" | "TTIN" | "21" | "TTOU" | "22" => .stops
  | _ => .ends

/-- Send a signal to the script itself; nothing else can be reached. A script that is stopped
stays so until its deadline. -/
def Action.kill (arguments : List (List Char)) : Action Unit := do
  let (signal, targets) := match arguments with
    | ['-', 's'] :: name :: rest => (name, rest)
    | ('-' :: name) :: rest => (name, rest)
    | rest => ("TERM".toList, rest)
  if !targets.isEmpty && targets.all (fun target => target == ownProcess || target == ['0']) then
    match signalEffect signal with
    | .nothing => Action.setStatus 0
    | .stops => throw .outOfTime
    | .ends => throw .killed
  else Action.setStatus 1

/-- Change the directory. -/
def Action.changeDirectory (arguments : List (List Char)) : Action Unit := do
  let machine ← get
  let previous := "OLDPWD".toList
  let target := match arguments with
    | ['-'] :: _ => machine.parameter? previous
    | word :: _ => some word
    | [] => machine.parameter? "HOME".toList
  match target.bind machine.nodeAt with
  | some (location, .directory) =>
    let left := (machine.setVariable previous (Program.placeName machine.tree.current))
    let moved := { left with tree := { left.tree with current := location } }
    set { moved.setVariable "PWD".toList (Program.placeName location) with status := 0 }
    if arguments.head? == some ['-'] then
      modify (fun machine => (Program.put (Program.placeName location ++ ['\n']) machine).2)
  | _ =>
    Action.report ("cd: can't cd to " ++ String.ofList (target.getD []))
    Action.setStatus 2

/-- The name and the value in a word, if it is an assignment. -/
def assignmentOf (word : List Char) : List Char × Option (List Char) :=
  match assignmentName word with
  | some (name, value) => (name, some value)
  | none => (word, none)

/-- Mark variables as handed on, after setting those that come with a value. -/
def Action.exportAll (words : List (List Char)) : Action Unit := do
  for word in words do
    let (name, value) := assignmentOf word
    modify (fun machine =>
      let assigned := match value with
        | some found => machine.setVariable name found
        | none => machine
      assigned.exportVariable name)
  Action.setStatus 0

/-- Make variables local to the current function. -/
def Action.makeLocal (words : List (List Char)) : Action Unit := do
  for word in words do
    let (name, value) := assignmentOf word
    modify (fun machine =>
      let noted := { machine with saved := (name, machine.findVariable name) :: machine.saved }
      match value with
      | some found => noted.setVariable name found
      | none => noted)
  Action.setStatus 0

/-- Set or clear the option of a letter. -/
def Machine.setOption (value : Bool) (machine : Machine) (letter : Char) : Machine :=
  match letter with
  | 'e' => { machine with stopsOnFailure := value }
  | 'u' => { machine with strict := value }
  | 'f' => { machine with literal := value }
  | _ => machine

/-- The letter of an option that is written out. -/
def optionLetter (name : List Char) : Char :=
  match String.ofList name with
  | "errexit" => 'e'
  | "nounset" => 'u'
  | "noglob" => 'f'
  | _ => 'o'

/-- Set the options and the arguments of the script. -/
def Action.configure : List (List Char) → Action Unit
  | [] => Action.setStatus 0
  | ['-', '-'] :: rest => modify (fun machine => { machine with arguments := rest, status := 0 })
  | ['-', 'o'] :: name :: rest => do
    modify (fun machine => machine.setOption true (optionLetter name))
    Action.configure rest
  | ['+', 'o'] :: name :: rest => do
    modify (fun machine => machine.setOption false (optionLetter name))
    Action.configure rest
  | ('-' :: letters) :: rest => do
    modify (fun machine => letters.foldl (Machine.setOption true) machine)
    Action.configure rest
  | ('+' :: letters) :: rest => do
    modify (fun machine => letters.foldl (Machine.setOption false) machine)
    Action.configure rest
  | words => modify (fun machine => { machine with arguments := words, status := 0 })

/-- Set or clear the commands that are run at the end. Signals are not caught. -/
def Action.setFarewell (arguments : List (List Char)) : Action Unit := do
  match arguments with
  | script :: events =>
    if events.any (fun event => event == "EXIT".toList || event == ['0']) then
      modify (fun machine =>
        { machine with farewell := if script == ['-'] then none else some script })
  | [] => return ()
  Action.setStatus 0

/-- Read a line into the variables that are named. -/
def Action.readInput (arguments : List (List Char)) : Action Unit := do
  let (flags, names) := Program.options arguments
  let (status, after) := (← get).readLine (flags.contains 'r') names
  set { after with status := status }

/-- Say where a command comes from, in words where those are wanted. -/
def Action.locate (inWords : Bool) (name : List Char) : Action Unit := do
  let machine ← get
  let isFunction := machine.functions.any (fun entry => entry.1 == name)
  let search := (machine.parameter? "PATH".toList).getD []
  let say := fun (brief : List Char) (what : List Char) =>
    Action.start (fun _ _ => Program.put
      ((if inWords then name ++ " is ".toList ++ what else brief) ++ ['\n'])) name []
  if isFunction then say name "a shell function".toList
  else if isSpecial name then say name "a special shell builtin".toList
  else if isBuiltIn name then say name "a shell builtin".toList
  else
    match Program.find machine search name with
    | .ok (place, _) => say place place
    | .error _ =>
      if inWords then
        modify (fun machine => (Program.put (name ++ ": not found\n".toList) machine).2)
      Action.setStatus 127

/-- Expand a use of a parameter that needs nothing but its value. -/
def Action.valueOf (name : List Char) (quoted : Bool) : Action (List Chunk) := do
  let machine ← get
  let joined := fun (separator : List Char) => Chunk.ofText true
    (separator.intercalate machine.arguments)
  let listed := fun (quoted : Bool) =>
    ((machine.arguments.map (Chunk.ofValue quoted)).intersperse [Chunk.boundary]).flatten
  match name with
  | ['@'] =>
    if machine.arguments.isEmpty then return (if quoted then [.vanished] else [])
    else return listed quoted
  | ['*'] =>
    if quoted then return joined (machine.separators.take 1) else return listed false
  | _ =>
    match machine.parameter? name with
    | some value => return Chunk.ofValue quoted value
    | none =>
      if machine.strict then Action.refuse (String.ofList name ++ ": parameter not set")
      else return []

/-- Whether a word contains the output of a command. -/
def hasOutput (word : List Piece) : Bool :=
  word.any (fun piece =>
    match piece with
    | .output _ _ => true
    | _ => false)

/-- How the interpreter of scripts was started. -/
structure Options where
  /-- The options of the script that were set or cleared, by their letters. -/
  settings : List (Bool × Char) := []
  /-- The first word behind the options is a script itself. -/
  takesCommands : Bool := false
  /-- The script is the input. -/
  takesInput : Bool := false

/-- Letters of options that change nothing here. -/
def idleLetters : List Char :=
  ['a', 'b', 'C', 'E', 'i', 'I', 'l', 'm', 'n', 'v', 'V', 'x']

/-- Set or clear the option of a letter. -/
def Options.change (options : Options) (value : Bool) (letter : Char) : Option Options :=
  match letter with
  | 'e' | 'u' | 'f' => some { options with settings := options.settings ++ [(value, letter)] }
  | 'c' => some { options with takesCommands := true }
  | 's' => some { options with takesInput := value }
  | _ => if idleLetters.contains letter then some options else none

/-- Read the options in front of other words. An unknown one is refused. -/
def Options.read (options : Options) :
    List (List Char) → Option (Options × List (List Char))
  | [] => some (options, [])
  | word :: rest =>
    match word with
    | ['-'] | ['-', '-'] => some (options, rest)
    | '-' :: letters =>
      (letters.foldlM (fun found letter => Options.change found true letter) options).bind
        (fun found => found.read rest)
    | '+' :: letters =>
      (letters.foldlM (fun found letter => Options.change found false letter) options).bind
        (fun found => found.read rest)
    | _ => some (options, word :: rest)

/-- What a program is told about the variables. -/
def Machine.environmentText (machine : Machine) : List Char :=
  (machine.bindings.filter Variable.exported).flatMap
    (fun entry => entry.name ++ '=' :: entry.value ++ ['\n'])

mutual

/-- Expand the pieces of a word. -/
def expand : Nat → List Piece → Action (List Chunk)
  | 0, _ => throw .outOfTime
  | _ + 1, [] => return []
  | calls + 1, piece :: rest => do
    let found ← expandPiece calls piece
    let others ← expand calls rest
    return found ++ others

def expandPiece : Nat → Piece → Action (List Chunk)
  | 0, _ => throw .outOfTime
  | _ + 1, .text content quoted => return Chunk.ofText quoted content
  | calls + 1, .output command quoted => do
    return Chunk.ofValue quoted (← capture calls command)
  | calls + 1, .sum expression quoted => do
    let text := Chunk.text (← expand calls expression)
    match Sum.evaluate (← get) text with
    | some (value, after) =>
      set after
      return Chunk.ofValue quoted (toString value).toList
    | none => Action.refuse "arithmetic expression: expecting primary"
  | calls + 1, .parameter name use quoted => expandUse calls name use quoted

/-- Expand a use of a parameter. -/
def expandUse : Nat → List Char → Use → Bool → Action (List Chunk)
  | 0, _, _, _ => throw .outOfTime
  | calls + 1, name, use, quoted => do
    let machine ← get
    let value := if name == ['@'] || name == ['*'] then
        if machine.arguments.isEmpty then none else some ([' '].intercalate machine.arguments)
      else machine.parameter? name
    let isMissing := fun (emptyToo : Bool) => match value with
      | none => true
      | some found => emptyToo && found.isEmpty
    let operand := fun (word : List Piece) => do
      let chunks ← expand calls word
      return if quoted then chunks else chunks.map Chunk.soften
    match use with
    | .value => Action.valueOf name quoted
    | .length => return Chunk.ofValue quoted (toString (value.getD []).length).toList
    | .fallback emptyToo word =>
      if isMissing emptyToo then operand word else Action.valueOf name quoted
    | .replace emptyToo word => if isMissing emptyToo then return [] else operand word
    | .assign emptyToo word =>
      if isMissing emptyToo then
        let text := Chunk.text (← expand calls word)
        modify (fun machine => machine.setVariable name text)
        return Chunk.ofValue quoted text
      else Action.valueOf name quoted
    | .complain emptyToo word =>
      if isMissing emptyToo then
        let text := Chunk.text (← expand calls word)
        Action.refuse (String.ofList name ++ ": " ++
          (if text.isEmpty then "parameter not set" else String.ofList text))
      else Action.valueOf name quoted
    | .cut side longest pattern =>
      let glob := Glob.ofWord (Chunk.marks (← expand calls pattern))
      let text := value.getD []
      return Chunk.ofValue quoted (match side with
        | .front => glob.cutFront longest text
        | .back => glob.cutBack longest text)

/-- The output of a command without the line ends behind it. -/
def capture : Nat → Command → Action (List Char)
  | 0, _ => throw .outOfTime
  | calls + 1, command => do
    let (number, opened) := (← get).addStream (.memory []) true
    set opened
    Action.inProcess (do
      modify (fun machine => machine.connect 1 number)
      run calls command)
    modify (fun machine =>
      { machine with outputStatus := machine.status, status := opened.status })
    let machine ← get
    let text := match machine.streams[number]? with
      | some stream => machine.contentOf stream.channel
      | none => []
    return ((text.filter (· != '\x00')).reverse.dropWhile (· == '\n')).reverse

/-- The arguments that words stand for. -/
def argumentsFor : Nat → List (List Piece) → Action (List (List Char))
  | 0, _ => throw .outOfTime
  | _ + 1, [] => return []
  | calls + 1, word :: rest => do
    let chunks ← expand calls word
    let machine ← get
    let found := (Chunk.words machine.separators chunks).flatMap machine.argumentsOf
    let others ← argumentsFor calls rest
    return found ++ others

/-- Set up redirections from the left to the right. The answer says whether all could
be set up. -/
def redirect : Nat → List Redirection → Action Bool
  | 0, _ => throw .outOfTime
  | _ + 1, [] => return true
  | calls + 1, redirection :: rest => do
    let opened ← (match redirection with
      | .file descriptor opening name => do
        Action.openFor descriptor opening (Chunk.text (← expand calls name))
      | .duplicate descriptor source => do
        Action.duplicate descriptor (Chunk.text (← expand calls source))
      | .document descriptor text => do
        let content := Chunk.text (← expand calls text)
        modify (fun machine =>
          let (number, after) := machine.addStream (.memory content) false
          after.connect descriptor number)
        return true)
    if opened then redirect calls rest else return false

/-- Set variables to the values of words. -/
def assign : Nat → List (List Char × List Piece) → Action Unit
  | 0, _ => throw .outOfTime
  | _ + 1, [] => return ()
  | calls + 1, (name, word) :: rest => do
    let value := Chunk.text (← expand calls word)
    if Action.valueLimit < value.length then throw .outOfTime
    modify (fun machine => machine.setVariable name value)
    assign calls rest

/-- Run the first clause with a pattern that the subject fits. -/
def choose : Nat → List Char → List Clause → Action Unit
  | 0, _, _ => throw .outOfTime
  | _ + 1, _, [] => Action.setStatus 0
  | calls + 1, subject, .mk patterns body :: rest => do
    if ← fitsAny calls subject patterns then
      match body with
      | .nothing => Action.setStatus 0
      | _ => run calls body
    else choose calls subject rest

def fitsAny : Nat → List Char → List (List Piece) → Action Bool
  | 0, _, _ => throw .outOfTime
  | _ + 1, _, [] => return false
  | calls + 1, subject, pattern :: rest => do
    let marks := Chunk.marks (← expand calls pattern)
    if (Glob.ofWord marks).accepts subject then return true
    else fitsAny calls subject rest

/-- Run the text of a script line by line. A line that is no script ends the run. -/
def runText : Nat → Nat → List Char → Action Unit
  | 0, _, _ => throw .outOfTime
  | calls + 1, line, script =>
    match nextLine script with
    | none => return ()
    | some none => do
      modify (fun machine => { machine with line := line })
      Action.refuse "Syntax error"
    | some (some (command, rest)) => do
      let taken := fun (text : List Char) =>
        ((script.take (script.length - text.length)).filter (· == '\n')).length
      modify (fun machine => { machine with line := line + taken (toNextWord script) })
      run calls command
      runText calls (line + taken rest) rest

/-- Run a whole script and what it has asked to be run at its end. -/
def runWhole : Nat → List Char → Action Unit
  | 0, _ => throw .outOfTime
  | calls + 1, script => do
    Action.untilExit (runText calls 1 script)
    let machine ← get
    match machine.farewell with
    | none => return ()
    | some last =>
      set { machine with farewell := none }
      Action.untilExit (runText calls 1 last)
      Action.setStatus machine.status

/-- Run another script as a process of its own. -/
def runScript : Nat → List Char → List (List Char) → List Char → Action Unit
  | 0, _, _, _ => throw .outOfTime
  | calls + 1, name, arguments, script =>
    Action.inProcess (do
      modify (fun machine => { machine.forScript name arguments with status := 0 })
      runWhole calls script)

/-- Start the interpreter of scripts. -/
def runInterpreter : Nat → List Char → List (List Char) → Action Unit
  | 0, _, _ => throw .outOfTime
  | calls + 1, name, arguments => do
    let machine ← get
    let run := fun (options : Options) (name : List Char) (arguments : List (List Char))
        (script : List Char) =>
      Action.inProcess (do
        modify (fun machine => options.settings.foldl
          (fun machine (value, letter) => machine.setOption value letter)
          { machine.forScript name arguments with status := 0 })
        runWhole calls script)
    match Options.read {} arguments with
    | none =>
      Action.report "Illegal option"
      Action.setStatus 2
    | some (options, words) =>
      match options.takesCommands, options.takesInput, words with
      | true, _, [] =>
        Action.report "-c requires an argument"
        Action.setStatus 2
      | true, _, [script] => run options name [] script
      | true, _, script :: given :: rest => run options given rest script
      | false, false, file :: rest =>
        match machine.tree.readBytes (Machine.pathOf file) with
        | .ok bytes => run options file rest (Text.Octets.ofBytes bytes)
        | .error _ =>
          Action.report ("cannot open " ++ String.ofList file ++ ": No such file")
          Action.setStatus 2
      | false, _, _ =>
        let (script, after) := machine.readAll 0
        set after
        run options name words script

/-- Start a program with a changed environment. -/
def runEnvironment : Nat → List (List Char) → Action Unit
  | 0, _ => throw .outOfTime
  | calls + 1, arguments => do
    match arguments with
    | [] => Action.start (fun _ _ machine => Program.put machine.environmentText machine) [] []
    | word :: rest =>
      if word == ['-'] || word == ['-', 'i'] then
        modify (fun machine => { machine with bindings := [] })
        runEnvironment calls rest
      else if word == ['-', '-'] then runEnvironment calls rest
      else if word == ['-', 'u'] then
        modify (fun machine => machine.unsetVariable (rest.headD []))
        runEnvironment calls (rest.drop 1)
      else
        match assignmentOf word with
        | (name, some value) =>
          modify (fun machine => (machine.setVariable name value).exportVariable name)
          runEnvironment calls rest
        | (_, none) => runProgram calls word rest

/-- Start what was found. -/
def runStart : Nat → Program.Start → List (List Char) → Action Unit
  | 0, _, _ => throw .outOfTime
  | calls + 1, start, arguments =>
    match start.startable with
    | .program program => Action.start program start.name (start.leading ++ arguments)
    | .script text => runScript calls start.name arguments text
    | .interpreter => runInterpreter calls start.name (start.leading ++ arguments)
    | .environment => Action.inProcess (runEnvironment calls (start.leading ++ arguments))

/-- Find a program and start it. -/
def runProgram : Nat → List Char → List (List Char) → Action Unit
  | 0, _, _ => throw .outOfTime
  | calls + 1, name, arguments => do
    let machine ← get
    let search := (machine.parameter? "PATH".toList).getD []
    match Program.find machine search name with
    | .ok (_, start) => runStart calls start arguments
    | .error .permissionDenied =>
      Action.report (String.ofList name ++ ": Permission denied")
      Action.setStatus 126
    | .error _ =>
      Action.report (String.ofList name ++ ": not found")
      Action.setStatus 127

/-- Run a command that needs no program, other than those that only print or check. -/
def runBuiltIn : Nat → List Char → List (List Char) → Action Unit
  | 0, _, _ => throw .outOfTime
  | calls + 1, name, arguments => do
    let machine ← get
    match String.ofList name with
    | "break" => Action.leaveLoops .broken (← Action.numberFrom arguments 1)
    | "continue" => Action.leaveLoops .continued (← Action.numberFrom arguments 1)
    | "return" => do
      Action.setStatus (← Action.numberFrom arguments machine.status)
      throw .returned
    | "exit" => do
      Action.setStatus (← Action.numberFrom arguments machine.status)
      throw .exited
    | "eval" => do
      Action.setStatus 0
      runText calls machine.line ([' '].intercalate arguments)
    | "." =>
      match arguments with
      | file :: _ =>
        match machine.tree.readBytes (Machine.pathOf file) with
        | .ok bytes => do
          Action.setStatus 0
          runText calls 1 (Text.Octets.ofBytes bytes)
        | .error _ => Action.refuse (".: cannot open " ++ String.ofList file ++ ": No such file")
      | [] => Action.refuse ".: filename argument required"
    | "exec" =>
      match arguments with
      | [] => Action.setStatus 0
      | program :: rest => do
        modify (fun machine => { machine with farewell := none })
        runProgram calls program rest
        throw .exited
    | "command" =>
      match arguments with
      | ['-', 'v'] :: program :: _ => Action.locate false program
      | program :: rest => runNamed calls program rest
      | [] => Action.setStatus 0
    | "export" | "readonly" => Action.exportAll arguments
    | "local" => Action.makeLocal arguments
    | "set" => Action.configure arguments
    | "shift" => do
      let count ← Action.numberFrom arguments 1
      if machine.arguments.length < count then Action.refuse "shift: can't shift that many"
      else modify (fun machine =>
        { machine with arguments := machine.arguments.drop count, status := 0 })
    | "unset" => modify (fun machine =>
        { arguments.foldl Machine.unsetVariable machine with
          functions := machine.functions.filter (fun entry => !arguments.contains entry.1)
          status := 0 })
    | "cd" => Action.changeDirectory arguments
    | "kill" => Action.kill arguments
    | "read" => Action.readInput arguments
    | "type" => Action.locate true (arguments.headD [])
    | "trap" => Action.setFarewell arguments
    | "umask" =>
      if arguments.isEmpty then Action.start (fun _ _ => Program.put usualMask) name arguments
      else Action.setStatus 0
    | "wait" => do
      let last := (machine.background.map Sleeper.finish).foldl max machine.clock
      set { machine with clock := last, status := 0 }
      Action.checkDeadline
    | _ => Action.setStatus 0

/-- Run a command by its name, functions left out. -/
def runNamed : Nat → List Char → List (List Char) → Action Unit
  | 0, _, _ => throw .outOfTime
  | calls + 1, name, arguments =>
    match Program.builtIn? name with
    | some program => Action.start program name arguments
    | none =>
      if isBuiltIn name then runBuiltIn calls name arguments
      else runProgram calls name arguments

/-- Run a function with arguments of its own. -/
def runFunction : Nat → Command → List (List Char) → Action Unit
  | 0, _, _ => throw .outOfTime
  | calls + 1, body, arguments =>
    Action.restoring
      (fun before after =>
        let restored := after.saved.foldl
          (fun machine (name, value) => machine.restoreVariable name value) after
        { restored with
          arguments := before.arguments
          saved := before.saved
          loops := before.loops })
      (do
        modify (fun machine => { machine with arguments := arguments, saved := [], loops := 0 })
        Action.inFunction (run calls body))

/-- Run a simple command. -/
def runSimple : Nat → List (List Char × List Piece) → List (List Piece) →
    List Redirection → Action Unit
  | 0, _, _, _ => throw .outOfTime
  | calls + 1, assignments, words, redirections => do
    let restoreStreams := fun (before after : Machine) =>
      { after with descriptors := before.descriptors }
    match ← argumentsFor calls words with
    | [] =>
      Action.restoring restoreStreams (do
        if ← redirect calls redirections then
          assign calls assignments
          let usesOutput := assignments.any (fun entry => hasOutput entry.2) ||
            words.any hasOutput
          modify (fun machine =>
            { machine with status := if usesOutput then machine.outputStatus else 0 }))
    | name :: arguments =>
      let function := ((← get).functions.find? (fun entry => entry.1 == name)).map Prod.snd
      if isSpecial name then
        let keeps := name == "exec".toList && arguments.isEmpty
        Action.restoring (if keeps then fun _ after => after else restoreStreams) (do
          if ← redirect calls redirections then
            assign calls assignments
            runNamed calls name arguments
          else throw .exited)
      else
        let before ← get
        let restore := fun (entered after : Machine) =>
          let unassigned := assignments.foldl (fun machine (given, _) =>
            machine.restoreVariable given (before.findVariable given)) after
          restoreStreams entered (if assignments.isEmpty then after else unassigned)
        Action.restoring restore (do
          if ← redirect calls redirections then
            assign calls assignments
            modify (fun machine => assignments.foldl
              (fun machine (given, _) => machine.exportVariable given) machine)
            match function with
            | some body => runFunction calls body arguments
            | none => runNamed calls name arguments)
    let machine ← get
    let (due, others) := machine.background.partition (fun sleeper =>
      sleeper.finish ≤ machine.clock)
    if !due.isEmpty then
      set { machine with background := others }
      awaken calls (due.mergeSort (fun left right => left.finish ≤ right.finish))
    Action.checkFailure

/-- Do what was left for later. -/
def awaken : Nat → List Sleeper → Action Unit
  | 0, _ => throw .outOfTime
  | _ + 1, [] => return ()
  | calls + 1, sleeper :: others => do
    let before ← get
    let after := Action.afterProcess (run calls sleeper.command)
      { before with
        bindings := sleeper.bindings
        arguments := sleeper.arguments
        descriptors := sleeper.descriptors
        clock := sleeper.start }
    set { Action.leaveProcess before after with clock := before.clock, status := before.status }
    awaken calls others

/-- Run a command. -/
def run : Nat → Command → Action Unit
  | 0, _ => throw .outOfTime
  | calls + 1, command =>
    match command with
    | .nothing => return ()
    | .simple assignments words redirections => runSimple calls assignments words redirections
    | .redirected body redirections =>
      Action.restoring (fun before after => { after with descriptors := before.descriptors }) (do
        if ← redirect calls redirections then run calls body)
    | .subshell body => do
      Action.inProcess (run calls body)
      Action.checkFailure
    | .background body => Action.inBackground body (run calls body)
    | .sequence first second => do
      run calls first
      run calls second
    | .both first second => do
      Action.tested (run calls first)
      if ← Action.succeeded then run calls second
    | .either first second => do
      Action.tested (run calls first)
      if !(← Action.succeeded) then run calls second
    | .negation body => do
      Action.tested (run calls body)
      Action.setStatus (if ← Action.succeeded then 1 else 0)
    | .pipe first second => do
      let start := (← get).clock
      let (number, opened) := (← get).addStream (.memory []) true
      set opened
      Action.inProcess (do
        modify (fun machine => machine.connect 1 number)
        run calls first)
      let middle ← get
      let text := match middle.streams[number]? with
        | some stream => middle.contentOf stream.channel
        | none => []
      let (source, ready) := { middle with clock := start }.addStream (.memory text) false
      set ready
      Action.inProcess (do
        modify (fun machine => machine.connect 0 source)
        run calls second)
      modify (fun machine => { machine with clock := max machine.clock middle.clock })
      Action.checkFailure
    | .conditional condition positive negative => do
      Action.tested (run calls condition)
      if ← Action.succeeded then
        run calls positive
      else
        match negative with
        | .nothing => Action.setStatus 0
        | _ => run calls negative
    | .loop whileFails condition body =>
      Action.repeatFrom turnLimit 0 (fun last => do
        let goesOn ← Action.inLoop (Action.tested (run calls condition))
        if goesOn && (← Action.succeeded) != whileFails then
          if ← Action.inLoop (run calls body) then return some (← get).status
          else
            Action.setStatus 0
            return none
        else
          Action.setStatus last
          return none)
    | .each name words body => do
      let items ← (match words with
        | some found => argumentsFor calls found
        | none => return (← get).arguments)
      if items.isEmpty then Action.setStatus 0
      Action.forEachWhile (fun item => do
        modify (fun machine => machine.setVariable name item)
        Action.inLoop (run calls body)) items
    | .choice subject clauses => do
      choose calls (Chunk.text (← expand calls subject)) clauses
    | .define name body => do
      modify (fun machine =>
        { machine with
          functions := (name, body) :: machine.functions.filter (fun entry => entry.1 != name) })
      Action.setStatus 0

end

/-- How a run ended, and the machine as it left it. -/
structure Ended where
  inTime : Bool
  machine : Machine

/-- Start a program on a machine. -/
def launch (machine : Machine) (start : Program.Start) (arguments : List (List Char)) : Ended :=
  let (result, after) := runStart nestingLimit start arguments machine
  { inTime := match result with
      | .error .outOfTime => false
      | _ => true
    machine := after }

end TexAtlas.Script
