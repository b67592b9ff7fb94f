/-
Reading the written form of a pattern. The reader goes once from left to right and
keeps the groups that are still open on a stack. A pattern is refused when its parts
are nested too deeply or when it takes too much room.
-/

import TexAtlas.Pattern.Bracket
import TexAtlas.Pattern.Footprint
import TexAtlas.Text.Property.Letter

namespace TexAtlas.Pattern

/-! ### Groups -/

/-- A part of a group: what it stands for and how deeply its parts are nested. A flag
directive stands for nothing that could be repeated. -/
structure Part where
  form : Option Expression
  depth : Nat

/-- Parts that follow each other. -/
def joinParts (parts : List Part) : Expression × Nat :=
  let depth := parts.foldl (fun deepest part => max deepest part.depth) 0
  (Expression.sequenceOf (parts.filterMap Part.form),
    if parts.length ≤ 1 then depth else depth + 1)

/-- One open group: finished alternatives and the parts of the current one, the latest
first, the flags that hold again after the group, and whether it captures. -/
structure GroupFrame where
  alternatives : List (Expression × Nat)
  parts : List Part
  outerFlags : Flags
  captures : Bool

namespace GroupFrame

def start (flags : Flags) (captures : Bool) : GroupFrame :=
  { alternatives := [], parts := [], outerFlags := flags, captures := captures }

def current (frame : GroupFrame) : Expression × Nat :=
  joinParts frame.parts.reverse

/-- What stands in the group, and how deeply it is nested. -/
def body (frame : GroupFrame) : Expression × Nat :=
  match frame.alternatives with
  | [] => frame.current
  | alternatives =>
    let branches := (frame.current :: alternatives).reverse
    (Expression.choiceOf (branches.map Prod.fst),
      branches.foldl (fun deepest branch => max deepest branch.2) 0 + 1)

/-- The group as a part of the group around it. -/
def close (frame : GroupFrame) : Part :=
  let (body, depth) := frame.body
  { form := some (if frame.captures then .captured body else body), depth := depth + 1 }

def add (frame : GroupFrame) (part : Part) : GroupFrame :=
  { frame with parts := part :: frame.parts }

def branch (frame : GroupFrame) : GroupFrame :=
  { frame with alternatives := frame.current :: frame.alternatives, parts := [] }

/-- Repeat the last part. -/
def repeatLast (frame : GroupFrame) (low : Nat) (high : Option Nat) (greedy : Bool) :
    Except SyntaxError GroupFrame :=
  match frame.parts with
  | { form := some form, depth } :: rest =>
    .ok { frame with
      parts := ⟨some (Expression.repeatedOf form low high greedy), depth + 1⟩ :: rest }
  | _ => .error .missingOperand

end GroupFrame

def isNameStart (c : Char) : Bool :=
  c == '_' || Text.isAlphabetic c

def isNamePart (c : Char) : Bool :=
  c == '_' || c == '.' || c == '[' || c == ']' || Text.isAlphabetic c || Text.isNumeric c

/-- The name of a group, up to the angle bracket that ends it. -/
def readGroupName (input : List Char) : Except SyntaxError (List Char × List Char) :=
  let name := input.takeWhile (· != '>')
  match input.drop name.length, name with
  | '>' :: rest, first :: others =>
    if isNameStart first && others.all isNamePart then .ok (name, rest) else .error .badGroupName
  | _, _ => .error .badGroupName

/-- What an opening parenthesis begins. -/
inductive GroupStart where
  | named (name : List Char)
  | numbered
  | plain (flags : Flags)
  | directive (flags : Flags)

/-- Read what follows an opening parenthesis. -/
def readGroupStart (flags : Flags) (input : List Char) :
    Except SyntaxError (GroupStart × List Char) :=
  match flags.skip input with
  | '?' :: 'P' :: '<' :: rest =>
    (readGroupName rest).map (fun found => (.named found.1, found.2))
  | '?' :: '=' :: _ | '?' :: '!' :: _ | '?' :: '<' :: '=' :: _ | '?' :: '<' :: '!' :: _ =>
    .error .unsupportedGroup
  | '?' :: '<' :: rest =>
    (readGroupName rest).map (fun found => (.named found.1, found.2))
  | '?' :: rest =>
    match flags.read [] false false rest with
    | .error error => .error error
    | .ok (changed, ':', after) => .ok (.plain changed, after)
    | .ok (changed, _, after) => .ok (.directive changed, after)
  | rest => .ok (.numbered, rest)

/-! ### Counted repetition -/

/-- Decimal digits, with the spacing that may follow each of them. -/
def readDigits (flags : Flags) : Nat → List Char → List Char × List Char
  | 0, input => ([], input)
  | turns + 1, input =>
    match input with
    | c :: rest =>
      if c.isDigit then
        let (digits, after) := readDigits flags turns (flags.skip rest)
        (c :: digits, after)
      else ([], input)
    | [] => ([], [])

/-- A decimal number, blanks around it allowed. -/
def readCount (flags : Flags) (input : List Char) : Option (Nat × List Char) :=
  let trimmed := input.dropWhile Text.isBlank
  let (digits, rest) := readDigits flags trimmed.length trimmed
  let value := digits.foldl (fun total c => total * 10 + (c.toNat - 48)) 0
  if digits.isEmpty || Nat.pow 2 32 ≤ value then none
  else some (value, flags.skip (rest.dropWhile Text.isBlank))

/-- The bounds between braces, after the opening one. A comma may stand before the closing
brace, but blanks may not stand there alone. -/
def readBounds (flags : Flags) (input : List Char) :
    Except SyntaxError (Nat × Option Nat × List Char) :=
  match readCount flags (flags.skip input) with
  | none => .error .badCount
  | some (low, '\x7d' :: rest) => .ok (low, some low, rest)
  | some (low, ',' :: more) =>
    match flags.skip more with
    | '\x7d' :: rest => .ok (low, none, rest)
    | bound =>
      match readCount flags bound with
      | some (high, '\x7d' :: rest) =>
        if low ≤ high then .ok (low, some high, rest) else .error .badCount
      | _ => .error .badCount
  | some _ => .error .badCount

/-- Whether a question mark follows, which reverses the preference of a repetition. -/
def readGreed (flags : Flags) : List Char → Bool × List Char
  | '?' :: rest => (flags.swapGreed, rest)
  | rest => (!flags.swapGreed, rest)

/-! ### The reader -/

/-- Where the reader stands. -/
structure Reader where
  outer : List GroupFrame
  frame : GroupFrame
  flags : Flags
  names : List (List Char)

namespace Reader

def initial : Reader :=
  { outer := [], frame := GroupFrame.start .initial false, flags := .initial, names := [] }

def add (reader : Reader) (form : Expression) (depth : Nat) : Reader :=
  { reader with frame := reader.frame.add ⟨some form, depth⟩ }

/-- A character that stands for itself. Where bytes are meant, only the case of ASCII
characters can be ignored. -/
def literal (reader : Reader) (c : Char) : Except SyntaxError Reader :=
  let flags := reader.flags
  if flags.ignoreCase && !flags.unicode && 0x80 ≤ c.toNat then .error .notText
  else .ok (reader.add (Expression.ofClass (flags.respectCase (.single c))) 0)

/-- Any character but those that end lines. -/
def anyLetter (reader : Reader) : Except SyntaxError Reader :=
  let flags := reader.flags
  let accepted : CharClass :=
    if flags.dotMatchesAll then .anything
    else if flags.returnEndsLine then .complement (.ranges [('\n', '\n'), ('\r', '\r')])
    else .complement (.single '\n')
  if flags.unicode then .ok (reader.add (.oneOf accepted) 0) else .error .notText

def startAssertion (flags : Flags) : Assertion :=
  if !flags.multiLine then .textStart
  else if flags.returnEndsLine then .returnLineStart
  else .lineStart

def endAssertion (flags : Flags) : Assertion :=
  if !flags.multiLine then .textEnd
  else if flags.returnEndsLine then .returnLineEnd
  else .lineEnd

def repeatLast (reader : Reader) (low : Nat) (high : Option Nat) (greedy : Bool) :
    Except SyntaxError Reader :=
  (reader.frame.repeatLast low high greedy).map (fun frame => { reader with frame := frame })

def enterGroup (reader : Reader) (flags : Flags) (captures : Bool) : Reader :=
  { reader with
    outer := reader.frame :: reader.outer
    frame := GroupFrame.start reader.flags captures
    flags := flags }

def openGroup (reader : Reader) (start : GroupStart) : Except SyntaxError Reader :=
  match start with
  | .directive flags =>
    .ok { reader with flags := flags, frame := reader.frame.add ⟨none, 0⟩ }
  | .plain flags => .ok (reader.enterGroup flags false)
  | .numbered => .ok (reader.enterGroup reader.flags true)
  | .named name =>
    if reader.names.contains name then .error .badGroupName
    else .ok { reader.enterGroup reader.flags true with names := name :: reader.names }

def closeGroup (reader : Reader) : Except SyntaxError Reader :=
  match reader.outer with
  | [] => .error .unopenedGroup
  | enclosing :: others =>
    .ok { reader with
      outer := others
      frame := enclosing.add reader.frame.close
      flags := reader.frame.outerFlags }

/-- Read one construct at the beginning of nonempty input. -/
def step (reader : Reader) (c : Char) (rest : List Char) :
    Except SyntaxError (Reader × List Char) :=
  let flags := reader.flags
  match c with
  | '(' =>
    match readGroupStart flags rest with
    | .error error => .error error
    | .ok (start, after) => (reader.openGroup start).map (fun next => (next, after))
  | ')' => reader.closeGroup.map (fun next => (next, rest))
  | '|' => .ok ({ reader with frame := reader.frame.branch }, rest)
  | '[' =>
    let (frame, after) := enterClass flags rest
    (readClass flags (rest.length + 1) [] frame after).map
      (fun found => (reader.add (Expression.ofClass found.1.accepted) found.1.depth, found.2))
  | '?' =>
    let (greedy, after) := readGreed flags rest
    (reader.repeatLast 0 (some 1) greedy).map (fun next => (next, after))
  | '*' =>
    let (greedy, after) := readGreed flags rest
    (reader.repeatLast 0 none greedy).map (fun next => (next, after))
  | '+' =>
    let (greedy, after) := readGreed flags rest
    (reader.repeatLast 1 none greedy).map (fun next => (next, after))
  | '\x7b' =>
    match readBounds flags rest with
    | .error error => .error error
    | .ok (low, high, closed) =>
      let (greedy, after) := readGreed flags (flags.skip closed)
      (reader.repeatLast low high greedy).map (fun next => (next, after))
  | '\\' =>
    match readEscape flags rest with
    | .error error => .error error
    | .ok (.literal found, after) => (reader.literal found).map (fun next => (next, after))
    | .ok (.charClass accepted, after) =>
      .ok (reader.add (Expression.ofClass accepted) 0, after)
    | .ok (.position assertion, after) => .ok (reader.add (.position assertion) 0, after)
  | '.' => reader.anyLetter.map (fun next => (next, rest))
  | '^' => .ok (reader.add (.position (startAssertion flags)) 0, rest)
  | '$' => .ok (reader.add (.position (endAssertion flags)) 0, rest)
  | _ => (reader.literal c).map (fun next => (next, rest))

/-- Read all input: the expression and how deeply its parts are nested. Every turn takes
at least one character. -/
def run : Nat → Reader → List Char → Except SyntaxError (Expression × Nat)
  | 0, _, _ => .error .tooLarge
  | turns + 1, reader, input =>
    match reader.flags.skip input with
    | [] => if reader.outer.isEmpty then .ok reader.frame.body else .error .unclosedGroup
    | c :: rest =>
      match reader.step c rest with
      | .error error => .error error
      | .ok (next, after) => run turns next after

end Reader

/-- How deeply the parts of a pattern may be nested. -/
def depthLimit : Nat := 250

/-- The expression that a text writes. -/
def expressionOf (text : String) : Except SyntaxError Expression :=
  match Reader.run (text.toList.length + 1) Reader.initial text.toList with
  | .error error => .error error
  | .ok (expression, depth) =>
    if depthLimit < depth then .error .tooDeep
    else if fits expression then .ok expression
    else .error .tooLarge

/-- The pattern that a text writes. -/
def parse (text : String) : Except SyntaxError Pattern :=
  (expressionOf text).map Expression.toPattern

end TexAtlas.Pattern
