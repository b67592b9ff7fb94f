/-
The command line. Options that hold for all commands may stand before and after the
command; of two, the one after it counts. Arguments are read from the left, and the
first problem, or the first request for help or for the version, ends the reading.
-/

import TexAtlas.Path

namespace TexAtlas

inductive Command where
  /-- Index all classes and packages, or the first few. -/
  | index (out : Option Path) (limit : Option Nat)
  /-- List what a file loads. -/
  | deps (name : String)
  /-- Show the component of a file. -/
  | classify (name : String)
  deriving DecidableEq, Repr

structure Invocation where
  configuration : Option Path
  sequential : Bool
  jobs : Option Nat
  command : Command
  deriving DecidableEq, Repr

namespace Invocation

/-- Why arguments lead to no invocation. -/
inductive Refusal where
  | help
  | version
  | usage
  deriving DecidableEq, Repr

inductive CommandWord where
  | index
  | deps
  | classify
  deriving DecidableEq, Repr

def CommandWord.ofWord? (word : String) : Option CommandWord :=
  match word with
  | "index" => some .index
  | "deps" => some .deps
  | "classify" => some .classify
  | _ => none

/-- What was read so far at one level of the command line. -/
structure Seen where
  configuration : Option Path
  sequential : Bool
  jobs : Option Nat
  out : Option Path
  limit : Option Nat
  name : Option String

def Seen.nothing : Seen :=
  { configuration := none, sequential := false, jobs := none, out := none, limit := none,
    name := none }

/-- A path must not be empty. -/
def pathOf (word : String) : Except Refusal Path :=
  if word.isEmpty then .error .usage else .ok (Path.ofString word)

/-- The largest number that an option takes. -/
def largest : Nat := 18446744073709551615

/-- A number of decimal digits, which a plus sign may precede. -/
def numberOf (word : String) : Except Refusal Nat :=
  let digits := match word.toList with
    | '+' :: rest => rest
    | other => other
  let value := digits.foldl (fun value digit => value * 10 + (digit.toNat - 48)) 0
  if digits.isEmpty || !digits.all Char.isDigit || largest < value then .error .usage
  else .ok value

/-- Whether an argument begins another option and so cannot be the value of one. -/
def looksLikeOption (word : String) : Bool :=
  match word.toList with
  | '-' :: _ :: _ => true
  | _ => false

/-- Options that take a value. -/
inductive Valued where
  | configuration
  | jobs
  | out
  | limit
  deriving DecidableEq, Repr

/-- Note the value of an option. An option is given at most once at a level. -/
def Seen.note (seen : Seen) (option : Valued) (word : String) : Except Refusal Seen :=
  match option with
  | .configuration =>
    if seen.configuration.isSome then .error .usage
    else (pathOf word).map (fun path => { seen with configuration := some path })
  | .jobs =>
    if seen.jobs.isSome then .error .usage
    else (numberOf word).map (fun count => { seen with jobs := some count })
  | .out =>
    if seen.out.isSome then .error .usage
    else (pathOf word).map (fun path => { seen with out := some path })
  | .limit =>
    if seen.limit.isSome then .error .usage
    else (numberOf word).map (fun count => { seen with limit := some count })

/-- An option as it is recognised. -/
inductive Recognised where
  | valued (option : Valued)
  | sequential
  | help
  | version
  deriving DecidableEq, Repr

/-- The long option of a name, at the level before the command or of a command. -/
def longOption (command : Option CommandWord) (name : String) : Option Recognised :=
  match name, command with
  | "config", _ => some (.valued .configuration)
  | "jobs", _ => some (.valued .jobs)
  | "sequential", _ => some .sequential
  | "help", _ => some .help
  | "version", none => some .version
  | "out", some .index => some (.valued .out)
  | "limit", some .index => some (.valued .limit)
  | _, _ => none

def shortOption (command : Option CommandWord) (letter : Char) : Option Recognised :=
  match letter, command with
  | 'j', _ => some (.valued .jobs)
  | 'h', _ => some .help
  | 'V', none => some .version
  | 'o', some .index => some (.valued .out)
  | _, _ => none

/-- What one argument that begins with a dash comes to: what is known after it, and the
option whose value is the next argument, if any. -/
def readOption (command : Option CommandWord) (seen : Seen) (word : String) :
    Except Refusal (Seen × Option Valued) :=
  match word.toList with
  | '-' :: '-' :: letters =>
    let name := letters.takeWhile (· != '=')
    let attached := letters.drop name.length
    match longOption command (String.ofList name), attached with
    | some (.valued option), _ :: value =>
      (seen.note option (String.ofList value)).map (fun found => (found, none))
    | some (.valued option), [] => .ok (seen, some option)
    | some .sequential, [] =>
      if seen.sequential then .error .usage else .ok ({ seen with sequential := true }, none)
    | some .help, [] => .error .help
    | some .version, [] => .error .version
    | _, _ => .error .usage
  | '-' :: letter :: rest =>
    match shortOption command letter, rest with
    | some (.valued option), [] => .ok (seen, some option)
    | some (.valued option), '=' :: value =>
      (seen.note option (String.ofList value)).map (fun found => (found, none))
    | some (.valued option), value =>
      (seen.note option (String.ofList value)).map (fun found => (found, none))
    | some .help, _ => .error .help
    | some .version, _ => .error .version
    | _, _ => .error .usage
  | _ => .error .usage

/-- An argument that stands for itself: the name that a command is about. -/
def Seen.take (seen : Seen) (command : CommandWord) (word : String) : Except Refusal Seen :=
  match command, seen.name with
  | .index, _ => .error .usage
  | _, some _ => .error .usage
  | _, none => .ok { seen with name := some word }

/-- Read the arguments after the command. -/
def readCommand (command : CommandWord) : Seen → Option Valued → List String →
    Except Refusal Seen
  | seen, none, [] => .ok seen
  | _, some _, [] => .error .usage
  | seen, some option, word :: rest =>
    if looksLikeOption word then .error .usage
    else
      match seen.note option word with
      | .error refusal => .error refusal
      | .ok found => readCommand command found none rest
  | seen, none, word :: rest =>
    if word == "--" then rest.foldlM (fun seen word => seen.take command word) seen
    else if looksLikeOption word then
      match readOption (some command) seen word with
      | .error refusal => .error refusal
      | .ok (found, option) => readCommand command found option rest
    else
      match seen.take command word with
      | .error refusal => .error refusal
      | .ok found => readCommand command found none rest

/-- What a call for help is about has to exist. -/
def readHelp (words : List String) : Refusal :=
  match words with
  | [] => .help
  | [word] => if (CommandWord.ofWord? word).isSome || word == "help" then .help else .usage
  | _ => .usage

/-- The invocation of what was read before and after the command. -/
def combine (before : Seen) (command : CommandWord) (after : Seen) :
    Except Refusal Invocation :=
  let make := fun (command : Command) =>
    { configuration := after.configuration.or before.configuration
      sequential := after.sequential || before.sequential
      jobs := after.jobs.or before.jobs
      command := command : Invocation }
  match command, after.name with
  | .index, _ => .ok (make (.index after.out after.limit))
  | .deps, some name => .ok (make (.deps name))
  | .classify, some name => .ok (make (.classify name))
  | _, none => .error .usage

/-- Read the arguments up to the command, and the rest with it. -/
def readArguments : Seen → Option Valued → List String → Except Refusal Invocation
  | _, _, [] => .error .usage
  | seen, some option, word :: rest =>
    if looksLikeOption word then .error .usage
    else
      match seen.note option word with
      | .error refusal => .error refusal
      | .ok found => readArguments found none rest
  | seen, none, word :: rest =>
    if word == "--" then .error .usage
    else if looksLikeOption word then
      match readOption none seen word with
      | .error refusal => .error refusal
      | .ok (found, option) => readArguments found option rest
    else
      match CommandWord.ofWord? word with
      | some command => (readCommand command .nothing none rest).bind (combine seen command)
      | none => if word == "help" then .error (readHelp rest) else .error .usage

/-- The invocation that arguments ask for. -/
def ofArguments (arguments : List String) : Except Refusal Invocation :=
  readArguments .nothing none arguments

end Invocation

end TexAtlas
