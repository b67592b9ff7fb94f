/-
Programs that print texts, or what they make of them line by line.
-/

import TexAtlas.Pattern.Parser
import TexAtlas.Pattern.Search
import TexAtlas.Script.Format
import TexAtlas.Script.Program.Basic

namespace TexAtlas.Script.Program

def cat : Program := fun name arguments machine =>
  filter (fun text => text) name (options arguments).2 machine

/-- The lines of a text with their ends. -/
def wholeLines : Nat → List Char → List (List Char)
  | 0, _ => []
  | _, [] => []
  | turns + 1, text =>
    let line := text.takeWhile (· != '\n')
    match text.drop line.length with
    | [] => [line]
    | c :: rest => (line ++ [c]) :: wholeLines turns rest

def linesOf (text : List Char) : List (List Char) :=
  wholeLines (text.length + 1) text

/-- How much of a text is asked for. -/
structure Extent where
  /-- Count characters, not lines. -/
  byCharacter : Bool
  /-- The sign in front of the number, if there is one. -/
  sign : Option Char
  count : Nat

/-- The extent that a number stands for. -/
def Extent.ofWord (byCharacter : Bool) (word : List Char) : Extent :=
  match word with
  | '+' :: digits => ⟨byCharacter, some '+', (String.ofList digits).toNat?.getD 10⟩
  | '-' :: digits => ⟨byCharacter, some '-', (String.ofList digits).toNat?.getD 10⟩
  | digits => ⟨byCharacter, none, (String.ofList digits).toNat?.getD 10⟩

/-- The extent that is asked for, and the other arguments. -/
def extentOf (arguments : List (List Char)) : Extent × List (List Char) :=
  match arguments with
  | ['-', 'n'] :: count :: rest => (.ofWord false count, rest)
  | ['-', 'c'] :: count :: rest => (.ofWord true count, rest)
  | ('-' :: 'n' :: count) :: rest => (.ofWord false count, rest)
  | ('-' :: 'c' :: count) :: rest => (.ofWord true count, rest)
  | ('-' :: count) :: rest =>
    match (String.ofList count).toNat? with
    | some found => (⟨false, none, found⟩, rest)
    | none => (⟨false, none, 10⟩, arguments)
  | _ => (⟨false, none, 10⟩, arguments)

/-- The units of a text that an extent counts. -/
def Extent.units (extent : Extent) (text : List Char) : List (List Char) :=
  if extent.byCharacter then text.map (fun c => [c]) else linesOf text

def head : Program := fun name arguments machine =>
  let (extent, names) := extentOf arguments
  filter (fun text =>
    let units := extent.units text
    (units.take (if extent.sign == some '-' then units.length - extent.count
      else extent.count)).flatten) name names machine

def tail : Program := fun name arguments machine =>
  let (extent, names) := extentOf arguments
  filter (fun text =>
    let units := extent.units text
    (units.drop (if extent.sign == some '+' then extent.count - 1
      else units.length - extent.count)).flatten) name names machine

/-- The numbers of line ends, words and characters of a text. -/
def tally (text : List Char) : List Nat :=
  let isSpace := fun (c : Char) => c == ' ' || ('\t' ≤ c && c ≤ '\r')
  let words := ((Text.runs isSpace text).filter (fun run => !run.isEmpty)).length
  [text.count '\n', words, text.length]

/-- Count lines, words and characters. Numbers are as wide as all of them need, and wider
where the length of a source cannot be known before. -/
def wc : Program := fun name arguments machine =>
  let (flags, names) := options arguments
  let chosen := fun (numbers : List Nat) =>
    if flags.isEmpty then numbers
    else ((['l', 'w', 'c'].zip numbers).filter (fun entry => flags.contains entry.1)).map Prod.snd
  let sources := if names.isEmpty then [['-']] else names
  let sizes := names.map (fun name =>
    match machine.tree.readBytes (Machine.pathOf name) with
    | .ok bytes => bytes.length
    | .error _ => 0)
  let isFile := match machine.streamAt 0 with
    | some (_, ⟨.file _, _, _⟩) => true
    | _ => false
  let digits := fun (number : Nat) => (toString number).toList
  let width := if (chosen [0, 0, 0]).length = 1 && sources.length = 1 then 1
    else if !names.isEmpty then (digits (sizes.foldl (· + ·) 0)).length
    else if isFile then (digits (machine.unread 0).length).length
    else 7
  let line := fun (numbers : List Nat) (label : List Char) =>
    [' '].intercalate ((chosen numbers).map (fun number =>
      List.replicate (width - (digits number).length) ' ' ++ digits number)) ++
      (if label.isEmpty then [] else ' ' :: label) ++ ['\n']
  let (status, total, after) := sources.foldl
    (fun (status, total, machine) argument =>
      match source name argument machine with
      | .ok (text, read) =>
        let numbers := tally text
        let label := if names.isEmpty then [] else argument
        let (found, after) := put (line numbers label) read
        (max status found, List.zipWith (· + ·) total numbers, after)
      | .error after => (1, total, after))
    (0, [0, 0, 0], machine)
  if sources.length ≤ 1 then (status, after)
  else
    let (found, final) := put (line total "total".toList) after
    (max status found, final)

/-- Print the input and keep it in files. -/
def tee : Program := fun name arguments machine =>
  let (flags, names) := options arguments
  let (text, read) := machine.readAll 0
  let (status, printed) := put text read
  let (kept, after) := forEach names (fun argument machine =>
    let path := Machine.pathOf argument
    let before := if flags.contains 'a' then (machine.tree.readBytes path).toOption.getD [] else []
    match machine.tree.writeBytes path (before ++ Text.Octets.toBytes text) with
    | .ok tree => (0, { machine with tree := tree })
    | .error fault => (1, complain name argument fault machine)) printed
  (max status kept, after)

/-- The characters of a named class. -/
def namedClass (name : String) : List Char :=
  let among := fun (holds : Char → Bool) => ((List.range 128).map Char.ofNat).filter holds
  match name with
  | "lower" => among Char.isLower
  | "upper" => among Char.isUpper
  | "alpha" => among Char.isAlpha
  | "digit" => among Char.isDigit
  | "alnum" => among Char.isAlphanum
  | "space" => among (fun c => c == ' ' || ('\t' ≤ c && c ≤ '\r'))
  | "blank" => [' ', '\t']
  | "punct" => among (fun c => '!' ≤ c && c ≤ '~' && !c.isAlphanum)
  | _ => []

/-- The characters that a set names, in its order. -/
def charactersOf : Nat → List Char → List Char
  | 0, _ => []
  | _, [] => []
  | turns + 1, '[' :: ':' :: rest =>
    let name := rest.takeWhile Char.isAlpha
    match rest.drop name.length with
    | ':' :: ']' :: after => namedClass (String.ofList name) ++ charactersOf turns after
    | _ => '[' :: charactersOf turns (':' :: rest)
  | turns + 1, '\\' :: c :: rest =>
    let digits := Format.octalDigits (c :: rest)
    if !digits.isEmpty then
      Format.octalByte digits :: charactersOf turns ((c :: rest).drop digits.length)
    else (Format.escapeLetter c).getD c :: charactersOf turns rest
  | turns + 1, first :: '-' :: last :: rest =>
    (List.range (last.toNat + 1 - first.toNat)).map
        (fun offset => Char.ofNat (first.toNat + offset))
      ++ charactersOf turns rest
  | turns + 1, c :: rest => c :: charactersOf turns rest

/-- Leave out all but the first of each run of one of the characters. -/
def squeezed (characters : List Char) : List Char → List Char
  | first :: second :: rest =>
    if first == second && characters.contains first then squeezed characters (second :: rest)
    else first :: squeezed characters (second :: rest)
  | text => text

/-- Replace, remove or squeeze characters of the input. -/
def tr : Program := fun _ arguments machine =>
  let (flags, sets) := options arguments
  let characters := fun (set : List Char) => charactersOf (set.length + 1) set
  let (text, read) := machine.readAll 0
  let isOther := flags.contains 'c' || flags.contains 'C'
  match sets with
  | [] => (1, machine)
  | given :: others =>
    let first := characters given
    let second := characters (others.headD [])
    let isMeant := fun (c : Char) => first.contains c != isOther
    let changed := if flags.contains 'd' then text.filter (fun c => !isMeant c)
      else if second.isEmpty then text
      else text.map (fun c =>
        if !isMeant c then c
        else if isOther then second.getLast?.getD c
        else (second[first.idxOf c]?).getD (second.getLast?.getD c))
    put (if flags.contains 's' then squeezed (if second.isEmpty then first else second) changed
      else changed) read

/-- A text made of lines. -/
def textOf (lines : List (List Char)) : List Char :=
  lines.flatMap (fun line => line ++ ['\n'])

/-- Lines without their ends. -/
def bareLines (text : List Char) : List (List Char) :=
  (linesOf text).map (fun line => if line.getLast? == some '\n' then line.dropLast else line)

/-- The lines of all sources in order. -/
def sort : Program := fun name arguments machine =>
  let (flags, names) := options arguments
  let (status, lines, after) := (if names.isEmpty then [['-']] else names).foldl
    (fun (status, lines, machine) argument =>
      match source name argument machine with
      | .ok (text, read) => (status, lines ++ bareLines text, read)
      | .error after => (2, lines, after))
    (0, [], machine)
  let ascending := lines.mergeSort (fun left right => !(right < left))
  let ordered := if flags.contains 'r' then ascending.reverse else ascending
  if status = 0 then put (textOf (if flags.contains 'u' then ordered.eraseDups else ordered)) after
  else (status, after)

/-- Leave out lines that repeat the one before. -/
def uniq : Program := fun name arguments machine =>
  filter (fun text =>
    let lines := bareLines text
    textOf ((lines.zip (none :: lines.map some)).filterMap (fun (line, before) =>
      if before == some line then none else some line)))
    name (options arguments).2 machine

/-- A basic pattern as an extended one: a sign that is an operator in one stands for itself
in the other. A backslash in front of a letter without a meaning does not count. -/
def extendedPattern : List Char → List Char
  | [] => []
  | '\\' :: c :: rest =>
    (if ['(', ')', '\x7b', '\x7d', '|', '+', '?'].contains c then [c]
      else if c.isAlphanum && !(['b', 'B', 'w', 'W', 's', 'S'].contains c) then [c]
      else ['\\', c]) ++
      extendedPattern rest
  | c :: rest =>
    (if ['(', ')', '|', '+', '?', '\x7b', '\x7d'].contains c then ['\\', c] else [c]) ++
      extendedPattern rest

/-- Print or count the lines with a match. The status says whether there were any. -/
def grep : Program := fun name arguments machine =>
  let (flags, words) := options arguments
  match words with
  | [] => (2, machine)
  | written :: names =>
    let has := fun (flag : Char) => flags.contains flag
    let escaped := written.flatMap (fun c => if c.isAlphanum || c == ' ' then [c] else ['\\', c])
    let plain := if has 'F' then escaped else if has 'E' then written
      else match written with
        | '*' :: rest => '\\' :: '*' :: extendedPattern rest
        | _ => extendedPattern written
    let sized := if has 'i' then "(?i:".toList ++ plain ++ [')'] else plain
    let whole := if has 'x' then "^(?:".toList ++ sized ++ ")$".toList else sized
    match Pattern.parse (String.ofList whole) with
    | .error _ => (2, machine)
    | .ok pattern =>
      let program := pattern.program
      let isChosen := fun (line : List Char) => (program.matchesIn line).isEmpty == has 'v'
      let sources := if names.isEmpty then [['-']] else names
      let (status, found, after) := sources.foldl
        (fun (status, found, machine) argument =>
          match source name argument machine with
          | .error after => (2, found, after)
          | .ok (text, read) =>
            let lines := ((bareLines text).zipIdx 1).filter (fun entry => isChosen entry.1)
            let label := if sources.length ≤ 1 || has 'h' then [] else argument ++ [':']
            let shown := fun (line : List Char) (number : Nat) =>
              let front := label ++ (if has 'n' then (toString number).toList ++ [':'] else [])
              if has 'o' then
                ((program.matchesIn line).filter (fun found => !found.isEmpty)).map (front ++ ·)
              else [front ++ line]
            let printed := if has 'q' then []
              else if has 'c' then textOf [label ++ (toString lines.length).toList]
              else if has 'l' then (if lines.isEmpty then [] else textOf [argument])
              else textOf (lines.flatMap (fun (line, number) => shown line number))
            (status, found || !lines.isEmpty, (put printed read).2))
        (0, false, machine)
      (if has 'q' && found then 0 else if status ≠ 0 then status else if found then 0 else 1, after)

end TexAtlas.Script.Program
