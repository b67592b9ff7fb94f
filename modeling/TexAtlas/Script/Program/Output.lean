/-
Programs that print what they are told, or nothing.
-/

import TexAtlas.Script.Condition
import TexAtlas.Script.Format
import TexAtlas.Script.Program.Basic

namespace TexAtlas.Script.Program

def echo : Program := fun _ arguments machine =>
  put (Format.echo arguments) machine

/-- An echo that leaves backslashes alone. -/
def plainEcho : Program := fun _ arguments machine =>
  match arguments with
  | ['-', 'n'] :: rest => put ([' '].intercalate rest) machine
  | _ => put ([' '].intercalate arguments ++ ['\n']) machine

def printf : Program := fun _ arguments machine =>
  let words := if arguments.head? == some ['-', '-'] then arguments.drop 1 else arguments
  match words with
  | [] => (2, machine)
  | format :: rest =>
    let (text, status) := Format.print format rest
    let (written, after) := put text machine
    (max status written, after)

/-- Check a condition. A bracket in front asks for one at the end. -/
def test : Program := fun name arguments machine =>
  let words :=
    if name.getLast? == some '[' then
      if arguments.getLast? == some [']'] then some arguments.dropLast else none
    else some arguments
  match words with
  | none => (2, machine)
  | some words =>
    match Condition.holds machine words with
    | some true => (0, machine)
    | some false => (1, machine)
    | none => (2, machine)

/-- More milliseconds than any deadline has. -/
def endless : Nat := 1000000000000000000000000

/-- The milliseconds that a time stands for. -/
def milliseconds? (text : List Char) : Option Nat :=
  if text == "inf".toList || text == "infinity".toList then some endless
  else
    let unit := match text.getLast? with
      | some 's' => some 1
      | some 'm' => some 60
      | some 'h' => some 3600
      | some 'd' => some 86400
      | _ => none
    let number := if unit.isSome then text.dropLast else text
    let whole := number.takeWhile Char.isDigit
    let fraction := match number.drop whole.length with
      | [] => some []
      | '.' :: digits => if digits.all Char.isDigit then some digits else none
      | _ => none
    match fraction with
    | none => none
    | some digits =>
      if whole.isEmpty && digits.isEmpty then none
      else
        let count := fun (digits : List Char) =>
          digits.foldl (fun value digit => value * 10 + (digit.toNat - 48)) 0
        some ((count whole * 1000 + count ((digits ++ ['0', '0', '0']).take 3)) * unit.getD 1)

def sleep : Program := fun _ arguments machine =>
  match arguments.mapM milliseconds? with
  | some times =>
    if times.isEmpty then (1, machine)
    else (0, { machine with clock := times.foldl (· + ·) machine.clock })
  | none => (1, machine)

def pwd : Program := fun _ _ machine =>
  put (placeName machine.tree.current ++ ['\n']) machine

/-- A path without the separators at its end. -/
def withoutSlashes (path : List Char) : List Char :=
  (path.reverse.dropWhile (· == '/')).reverse

/-- The last part of a path and the part in front of its separator. -/
def splitPath (path : List Char) : List Char × List Char :=
  let last := (path.reverse.takeWhile (· != '/')).reverse
  (path.take (path.length - last.length - 1), last)

/-- The last name in a path, without an ending that is given, unless it is all of it. -/
def basename : Program := fun _ arguments machine =>
  match arguments with
  | [] => (1, machine)
  | path :: rest =>
    let plain := withoutSlashes path
    let name := if plain.isEmpty && !path.isEmpty then ['/'] else (splitPath plain).2
    let ending := rest.headD []
    let isEnding := ending.isSuffixOf name && ending != name
    put ((if isEnding then name.take (name.length - ending.length) else name) ++ ['\n']) machine

/-- What is in front of the last name in a path. -/
def dirname : Program := fun _ arguments machine =>
  match arguments with
  | [] => (1, machine)
  | path :: _ =>
    let plain := withoutSlashes path
    let parent := withoutSlashes (splitPath plain).1
    let shown := if !parent.isEmpty then parent
      else if path.head? == some '/' then ['/'] else ['.']
    put (shown ++ ['\n']) machine

/-- Numbers from one to another, one on a line. -/
def seq : Program := fun _ arguments machine =>
  let numbers := arguments.mapM (fun word => (String.ofList word).toNat?)
  let range := fun (first last : Nat) =>
    put ((List.range (last + 1 - first)).flatMap
      (fun position => (toString (first + position)).toList ++ ['\n'])) machine
  match numbers with
  | some [last] => range 1 last
  | some [first, last] => range first last
  | _ => (1, machine)

end TexAtlas.Script.Program
