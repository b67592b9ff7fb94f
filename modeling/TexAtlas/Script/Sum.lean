/-
Arithmetic on whole numbers, as scripts write it. Numbers have 64 bits and wrap around.
An expression may set variables, but not in a part whose value does not matter.
-/

import TexAtlas.Script.Format
import TexAtlas.Script.Machine

namespace TexAtlas.Script.Sum

/-- Where a calculation stands: what is left to read, and the machine with the variables. -/
structure Calculation where
  input : List Char
  machine : Machine

/-- A step of a calculation, which fails where the expression is none. -/
abbrev Step := StateT Calculation Option

/-- How many numbers there are. -/
def modulus : Nat := 18446744073709551616

/-- The number of 64 bits that stands for a whole number. -/
def wrap (value : Int) : Int :=
  value.bmod modulus

/-- Operators of two numbers, those of each level from the weakest to the strongest. -/
def levels : List (List String) :=
  [["|"], ["^"], ["&"], ["==", "!="], ["<=", ">=", "<", ">"], ["<<", ">>"], ["+", "-"],
    ["*", "/", "%"]]

/-- Operators that set a variable, each with the operator that finds the value. -/
def settingOperators : List (String × String) :=
  [("<<=", "<<"), (">>=", ">>"), ("*=", "*"), ("/=", "/"), ("%=", "%"), ("+=", "+"), ("-=", "-"),
    ("&=", "&"), ("^=", "^"), ("|=", "|")]

/-- What is left behind an operator at the front. An operator that begins a longer one does
not stand for itself there. -/
def behind? (operator : String) (input : List Char) : Option (List Char) :=
  let letters := operator.toList
  let rest := input.drop letters.length
  let isLonger := match operator, rest.head? with
    | "|", some c | "&", some c | "<", some c | ">", some c => c == '=' || [c] == letters
    | "^", some '=' | "+", some '=' | "-", some '=' | "*", some '=' | "/", some '='
    | "%", some '=' | "<<", some '=' | ">>", some '=' | "=", some '=' => true
    | _, _ => false
  if letters.isPrefixOf input && !isLonger then some rest else none

/-- Step over white space. -/
def skipSpace : Step Unit :=
  modify (fun calculation =>
    { calculation with
      input := calculation.input.dropWhile (fun c => c == ' ' || c == '\t' || c == '\n') })

/-- Take an operator from the front, if one of the given ones stands there. -/
def take? (operators : List String) : Step (Option String) := do
  skipSpace
  let calculation ← get
  match operators.findSome? (fun operator =>
      (behind? operator calculation.input).map (fun rest => (operator, rest))) with
  | some (operator, rest) =>
    set { calculation with input := rest }
    return some operator
  | none => return none

def truth (holds : Bool) : Int :=
  if holds then 1 else 0

/-- The bits of a number as a natural number. -/
def bits (value : Int) : Nat :=
  (value % (modulus : Int)).toNat

/-- The value of an operation. Nothing can be divided by zero. -/
def apply (operator : String) (left right : Int) : Option Int :=
  match operator with
  | "|" => some (wrap (bits left ||| bits right : Nat))
  | "^" => some (wrap (bits left ^^^ bits right : Nat))
  | "&" => some (wrap (bits left &&& bits right : Nat))
  | "==" => some (truth (left == right))
  | "!=" => some (truth (left != right))
  | "<=" => some (truth (left ≤ right))
  | ">=" => some (truth (right ≤ left))
  | "<" => some (truth (left < right))
  | ">" => some (truth (right < left))
  | "<<" => some (wrap (left * Nat.pow 2 (bits right % 64)))
  | ">>" => some (Int.fdiv left (Nat.pow 2 (bits right % 64)))
  | "+" => some (wrap (left + right))
  | "-" => some (wrap (left - right))
  | "*" => some (wrap (left * right))
  | "/" => if right == 0 then none else some (wrap (Int.tdiv left right))
  | "%" => if right == 0 then none else some (Int.tmod left right)
  | _ => none

/-- The value of an operation that matters, or zero for one that does not. -/
def applyIf (matters : Bool) (operator : String) (left right : Int) : Option Int :=
  if matters then apply operator left right else some 0

/-- A number that is too large for 64 bits is the largest one. -/
def clamp (value : Int) : Int :=
  let largest : Int := 9223372036854775807
  if largest < value then largest else if value < -largest - 1 then -largest - 1 else value

def isNamePart (c : Char) : Bool :=
  c.isAlphanum || c == '_'

def isHexadecimal (c : Char) : Bool :=
  c.isDigit || ('a' ≤ c.toLower && c.toLower ≤ 'f')

/-- The characters of the number at the front. -/
def numeralOf (input : List Char) : List Char :=
  match input with
  | '0' :: mark :: rest =>
    let digits := rest.takeWhile isHexadecimal
    if (mark == 'x' || mark == 'X') && !digits.isEmpty then '0' :: 'x' :: digits
    else '0' :: (mark :: rest).takeWhile Format.isOctal
  | _ => input.takeWhile Char.isDigit

/-- The value of a variable. One that is not set or empty counts as zero. -/
def valueOf (machine : Machine) (name : List Char) : Option Int :=
  let text := (machine.parameter? name).getD []
  if text.all (fun c => c == ' ') then some 0
  else
    let trimmed := (text.reverse.dropWhile (· == ' ')).reverse
    match Format.readNumber trimmed with
    | (value, true) => some (clamp value)
    | (_, false) => none

/-- Take the name of a variable from the front. -/
def takeName? : Step (Option (List Char)) := do
  skipSpace
  let calculation ← get
  let name := calculation.input.takeWhile isNamePart
  match name.head? with
  | some c =>
    if c.isDigit then return none
    else
      set { calculation with input := calculation.input.drop name.length }
      return some name
  | none => return none

mutual

/-- An expression that may set a variable. -/
def assignment : Nat → Bool → Step Int
  | 0, _ => failure
  | calls + 1, matters => do
    let before ← get
    match ← takeName? with
    | none => conditional calls matters
    | some name =>
      match ← take? ("=" :: settingOperators.map Prod.fst) with
      | none =>
        set before
        conditional calls matters
      | some operator => do
        let given ← assignment calls matters
        let machine := (← get).machine
        let value ← (match settingOperators.lookup operator with
          | some found => (valueOf machine name).bind
              (fun old => applyIf matters found old given)
          | none => some given)
        if matters then
          modify (fun calculation =>
            { calculation with
              machine := calculation.machine.setVariable name (toString value).toList })
        return value

/-- A choice between two expressions. -/
def conditional : Nat → Bool → Step Int
  | 0, _ => failure
  | calls + 1, matters => do
    let first ← disjunction calls matters
    match ← take? ["?"] with
    | none => return first
    | some _ => do
      let positive ← assignment calls (matters && first != 0)
      match ← take? [":"] with
      | none => failure
      | some _ => do
        let negative ← conditional calls (matters && first == 0)
        return if first != 0 then positive else negative

def disjunction : Nat → Bool → Step Int
  | 0, _ => failure
  | calls + 1, matters => do
    let first ← conjunction calls matters
    match ← take? ["||"] with
    | none => return first
    | some _ => do
      let second ← disjunction calls (matters && first == 0)
      return truth (first != 0 || second != 0)

def conjunction : Nat → Bool → Step Int
  | 0, _ => failure
  | calls + 1, matters => do
    let first ← operation calls matters levels
    match ← take? ["&&"] with
    | none => return first
    | some _ => do
      let second ← conjunction calls (matters && first != 0)
      return truth (first != 0 && second != 0)

/-- Operations of the given levels. -/
def operation : Nat → Bool → List (List String) → Step Int
  | 0, _, _ => failure
  | calls + 1, matters, [] => primary calls matters
  | calls + 1, matters, operators :: stronger => do
    let first ← operation calls matters stronger
    continued calls matters operators stronger first

/-- The operations of one level after their first operand. -/
def continued : Nat → Bool → List String → List (List String) → Int → Step Int
  | 0, _, _, _, _ => failure
  | calls + 1, matters, operators, stronger, left => do
    match ← take? operators with
    | none => return left
    | some operator => do
      let right ← operation calls matters stronger
      continued calls matters operators stronger (← applyIf matters operator left right)

/-- A number, a variable, or an expression in parentheses, with its signs. -/
def primary : Nat → Bool → Step Int
  | 0, _ => failure
  | calls + 1, matters => do
    skipSpace
    match ← takeName? with
    | some name => valueOf (← get).machine name
    | none => do
      let calculation ← get
      match calculation.input with
      | [] => failure
      | c :: rest =>
        if c.isDigit then
          let numeral := numeralOf (c :: rest)
          set { calculation with input := (c :: rest).drop numeral.length }
          return clamp (Format.readNumber numeral).1
        else
          set { calculation with input := rest }
          match c with
          | '(' => do
            let value ← assignment calls matters
            if (← take? [")"]).isSome then return value else failure
          | '-' => return wrap (-(← primary calls matters))
          | '+' => primary calls matters
          | '!' => return truth ((← primary calls matters) == 0)
          | '~' => return wrap (-(← primary calls matters) - 1)
          | _ => failure

end

/-- The value of a whole expression, and the machine after it. -/
def evaluate (machine : Machine) (text : List Char) : Option (Int × Machine) :=
  let whole : Step Int := do
    let value ← assignment (32 * (text.length + 1)) true
    skipSpace
    if (← get).input.isEmpty then return value else failure
  (whole.run { input := text, machine := machine }).map
    (fun (value, calculation) => (value, calculation.machine))

end TexAtlas.Script.Sum
