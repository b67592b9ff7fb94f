/-
Conditions on texts, numbers and files, as the words of a test spell them out.
-/

import TexAtlas.Script.Machine

namespace TexAtlas.Script.Condition

open TexAtlas.Host (Node)

/-- The whole number that a text stands for. -/
def number? (text : List Char) : Option Int :=
  let trimmed := ((text.dropWhile (· == ' ')).reverse.dropWhile (· == ' ')).reverse
  let natural := fun (digits : List Char) =>
    if digits.all Char.isDigit then (String.ofList digits).toNat? else none
  match trimmed with
  | '-' :: rest => (natural rest).map (fun value => -(value : Int))
  | '+' :: rest => (natural rest).map Int.ofNat
  | _ => (natural trimmed).map Int.ofNat

/-- Whether a file is as a letter says. -/
def fileIs (machine : Machine) (letter : Char) (name : List Char) : Bool :=
  match letter, machine.nodeAt name with
  | _, none => false
  | 'e', some _ => true
  | 'f', some (_, .file _ _) => true
  | 'd', some (_, .directory) => true
  | 's', some (_, .file bytes _) => !bytes.isEmpty
  | 's', some (_, .directory) => true
  | 'c', some (_, .device _) => true
  | 'r', some _ => true
  | 'w', some _ => true
  | 'x', some (_, .file _ executable) => executable
  | 'x', some (_, .directory) => true
  | _, some _ => false

def fileLetters : List Char := ['e', 'f', 'd', 's', 'r', 'w', 'x', 'h', 'L', 'p', 'S', 'b', 'c']

/-- A test of one word. -/
def unary (machine : Machine) (operator : List Char) (word : List Char) : Option Bool :=
  match operator with
  | ['-', 'n'] => some (!word.isEmpty)
  | ['-', 'z'] => some word.isEmpty
  | ['-', 't'] => some false
  | ['-', letter] => if fileLetters.contains letter then some (fileIs machine letter word) else none
  | _ => none

def isUnary (operator : List Char) : Bool :=
  match operator with
  | ['-', letter] =>
    letter == 'n' || letter == 'z' || letter == 't' || fileLetters.contains letter
  | _ => false

/-- A comparison of numbers. -/
def comparison (operator : List Char) : Option (Int → Int → Bool) :=
  match String.ofList operator with
  | "-eq" => some (fun left right => left == right)
  | "-ne" => some (fun left right => left != right)
  | "-lt" => some (fun left right => left < right)
  | "-le" => some (fun left right => left ≤ right)
  | "-gt" => some (fun left right => right < left)
  | "-ge" => some (fun left right => right ≤ left)
  | _ => none

def isBinary (operator : List Char) : Bool :=
  operator == ['='] || operator == ['!', '='] || operator == ['<'] || operator == ['>'] ||
    (comparison operator).isSome

/-- A test of two words. Nothing where a number is wanted and there is none. -/
def binary (left operator right : List Char) : Option Bool :=
  if operator == ['='] then some (left == right)
  else if operator == ['!', '='] then some (left != right)
  else if operator == ['<'] then some (decide (left < right))
  else if operator == ['>'] then some (decide (right < left))
  else
    match comparison operator, number? left, number? right with
    | some compare, some first, some second => some (compare first second)
    | _, _, _ => none

mutual

/-- Conditions of which one has to hold. -/
def disjunction (machine : Machine) : Nat → List (List Char) → Option (Bool × List (List Char))
  | 0, _ => none
  | calls + 1, words => do
    let (first, rest) ← conjunction machine calls words
    match rest with
    | ['-', 'o'] :: after =>
      let (second, final) ← disjunction machine calls after
      some (first || second, final)
    | _ => some (first, rest)

/-- Conditions that all have to hold. -/
def conjunction (machine : Machine) : Nat → List (List Char) → Option (Bool × List (List Char))
  | 0, _ => none
  | calls + 1, words => do
    let (first, rest) ← single machine calls words
    match rest with
    | ['-', 'a'] :: after =>
      let (second, final) ← conjunction machine calls after
      some (first && second, final)
    | _ => some (first, rest)

/-- One condition. A word that stands alone holds where it is not empty. -/
def single (machine : Machine) : Nat → List (List Char) → Option (Bool × List (List Char))
  | 0, _ => none
  | calls + 1, words =>
    match words with
    | [] => some (false, [])
    | left :: operator :: right :: rest =>
      if isBinary operator then (binary left operator right).map (fun found => (found, rest))
      else if left == ['!'] then
        (single machine calls (operator :: right :: rest)).map
          (fun (found, after) => (!found, after))
      else if left == ['('] then
        match disjunction machine calls (operator :: right :: rest) with
        | some (found, [')'] :: after) => some (found, after)
        | _ => none
      else if isUnary left then
        (unary machine left operator).map (fun found => (found, right :: rest))
      else some (!left.isEmpty, operator :: right :: rest)
    | [left, right] =>
      if left == ['!'] then
        (single machine calls [right]).map (fun (found, after) => (!found, after))
      else if isUnary left then (unary machine left right).map (fun found => (found, []))
      else some (!left.isEmpty, [right])
    | [word] => some (!word.isEmpty, [])

end

/-- Whether the words of a test hold. Nothing where they are no test. -/
def holds (machine : Machine) (words : List (List Char)) : Option Bool :=
  match disjunction machine (3 * words.length + 3) words with
  | some (found, []) => some found
  | _ => none

end TexAtlas.Script.Condition
