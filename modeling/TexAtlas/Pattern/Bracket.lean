/-
Bracketed classes: characters, ranges, escapes and named classes between brackets,
brackets within brackets, and operators between them. The reader keeps the brackets
that are still open on a stack.
-/

import TexAtlas.Pattern.Escape

namespace TexAtlas.Pattern

/-- The operators between parts of a bracketed class. -/
inductive ClassOperator where
  | both
  | without
  | either
  deriving DecidableEq, Repr

def ClassOperator.apply : ClassOperator → CharClass → CharClass → CharClass
  | both, left, right => .both left right
  | without, left, right => .without left right
  | either, left, right => .either left right

/-- A class and how deeply its brackets and operators are nested. -/
structure NestedClass where
  accepted : CharClass
  depth : Nat

/-- One open bracket: whether it is negated, the operator that waits for its right
side, and the items since then with the depth of the deepest one. -/
structure ClassFrame where
  negated : Bool
  waiting : Option (ClassOperator × NestedClass)
  items : CharClass
  count : Nat
  deepest : Nat

namespace ClassFrame

def start (negated : Bool) : ClassFrame :=
  { negated := negated, waiting := none, items := .nothing, count := 0, deepest := 0 }

def add (frame : ClassFrame) (item : NestedClass) : ClassFrame :=
  { frame with
    items := match frame.items with
      | .ranges [] => item.accepted
      | items => .union items item.accepted
    count := frame.count + 1
    deepest := max frame.deepest item.depth }

def addChar (frame : ClassFrame) (c : Char) : ClassFrame :=
  frame.add ⟨.single c, 0⟩

/-- The items of a frame joined with the operator that waits for them. -/
def joined (frame : ClassFrame) (flags : Flags) : NestedClass :=
  let depth := if frame.count ≤ 1 then frame.deepest else frame.deepest + 1
  match frame.waiting with
  | none => ⟨frame.items, depth⟩
  | some (operator, left) =>
    ⟨operator.apply (flags.respectCase left.accepted) (flags.respectCase frame.items),
      max left.depth depth + 1⟩

def operate (frame : ClassFrame) (flags : Flags) (operator : ClassOperator) : ClassFrame :=
  { frame with
    waiting := some (operator, frame.joined flags)
    items := .nothing
    count := 0
    deepest := 0 }

def close (frame : ClassFrame) (flags : Flags) : Except SyntaxError NestedClass :=
  let joined := frame.joined flags
  let inner := flags.respectCase joined.accepted
  (flags.ensureText (if frame.negated then .complement inner else inner)).map
    (fun accepted => ⟨accepted, joined.depth + 1⟩)

end ClassFrame

/-- The named classes of ASCII characters. -/
def namedClass? (name : List Char) : Option CharClass :=
  let letters := [('a', 'z'), ('A', 'Z')]
  if name = "alnum".toList then some (.ranges (('0', '9') :: letters))
  else if name = "alpha".toList then some (.ranges letters)
  else if name = "ascii".toList then some (.ranges [('\x00', '\x7f')])
  else if name = "blank".toList then some (.ranges [('\t', '\t'), (' ', ' ')])
  else if name = "cntrl".toList then some (.ranges [('\x00', '\x1f'), ('\x7f', '\x7f')])
  else if name = "digit".toList then some (.ranges [('0', '9')])
  else if name = "graph".toList then some (.ranges [('!', '~')])
  else if name = "lower".toList then some (.ranges [('a', 'z')])
  else if name = "print".toList then some (.ranges [(' ', '~')])
  else if name = "punct".toList then
    some (.ranges [('!', '/'), (':', '@'), ('[', '\x60'), ('\x7b', '~')])
  else if name = "space".toList then some (.ranges [('\t', '\r'), (' ', ' ')])
  else if name = "upper".toList then some (.ranges [('A', 'Z')])
  else if name = "word".toList then some (.ranges (('0', '9') :: ('_', '_') :: letters))
  else if name = "xdigit".toList then some (.ranges [('0', '9'), ('a', 'f'), ('A', 'F')])
  else none

/-- A named class after its opening bracket: `:name:]`, the name possibly after `^`. -/
def readNamedClass? (input : List Char) : Option (CharClass × List Char) :=
  match input with
  | ':' :: inner =>
    let (negated, named) := match inner with
      | '^' :: named => (true, named)
      | _ => (false, inner)
    let name := named.takeWhile (· != ':')
    match named.drop name.length, namedClass? name with
    | ':' :: ']' :: rest, some accepted =>
      some (if negated then .complement accepted else accepted, rest)
    | _, _ => none
  | _ => none

/-- Read the hyphens that stand for themselves at the beginning of a class. -/
def readHyphens (flags : Flags) (frame : ClassFrame) : Nat → List Char → ClassFrame × List Char
  | 0, input => (frame, input)
  | turns + 1, input =>
    match flags.skip input with
    | '-' :: rest => readHyphens flags (frame.addChar '-') turns rest
    | rest => (frame, rest)

/-- Enter a bracket: a caret in first place negates it, and hyphens, or else a closing
bracket, in first place stand for themselves. -/
def enterClass (flags : Flags) (input : List Char) : ClassFrame × List Char :=
  let (negated, inner) := match flags.skip input with
    | '^' :: rest => (true, rest)
    | rest => (false, rest)
  let (frame, rest) := readHyphens flags (ClassFrame.start negated) (inner.length + 1) inner
  match frame.count, rest with
  | 0, ']' :: after => (frame.addChar ']', after)
  | _, _ => (frame, rest)

/-- One character or escape of a class. -/
def readClassItem (flags : Flags) : List Char → Except SyntaxError (Escape × List Char)
  | [] => .error .unclosedClass
  | '\\' :: rest => readEscape flags rest
  | c :: rest => .ok (.literal c, rest)

/-- A character or escape as the item of a class. Where bytes are meant, only ASCII
characters can be items. -/
def Escape.toClass (flags : Flags) : Escape → Except SyntaxError CharClass
  | .literal c => flags.ensureText (.single c)
  | .charClass accepted => .ok accepted
  | .position _ => .error .badEscape

/-- One item or range of a class. -/
def readClassRange (flags : Flags) (input : List Char) :
    Except SyntaxError (CharClass × List Char) :=
  match readClassItem flags input with
  | .error error => .error error
  | .ok (first, rest) =>
    let alone := (first.toClass flags).map (fun accepted => (accepted, rest))
    match flags.skip rest with
    | '-' :: after =>
      let spaced := flags.skip after
      if spaced.head? == some ']' || spaced.head? == some '-' then alone
      else
        match first, readClassItem flags spaced with
        | _, .error error => .error error
        | .literal low, .ok (.literal high, final) =>
          if low ≤ high then
            (flags.ensureText (.ranges [(low, high)])).map (fun accepted => (accepted, final))
          else .error .badClassRange
        | _, .ok _ => .error .badClassRange
    | _ => alone

/-- Read the rest of a bracketed class. Every turn takes at least one character, which
bounds the turns by the length of the input. -/
def readClass (flags : Flags) : Nat → List ClassFrame → ClassFrame → List Char →
    Except SyntaxError (NestedClass × List Char)
  | 0, _, _, _ => .error .unclosedClass
  | turns + 1, outer, frame, input =>
    match flags.skip input with
    | [] => .error .unclosedClass
    | '[' :: rest =>
      match readNamedClass? rest with
      | some (accepted, after) => readClass flags turns outer (frame.add ⟨accepted, 0⟩) after
      | none =>
        let (inner, after) := enterClass flags rest
        readClass flags turns (frame :: outer) inner after
    | ']' :: rest =>
      match frame.close flags, outer with
      | .error error, _ => .error error
      | .ok closed, [] => .ok (closed, rest)
      | .ok closed, enclosing :: others => readClass flags turns others (enclosing.add closed) rest
    | '&' :: '&' :: rest => readClass flags turns outer (frame.operate flags .both) rest
    | '-' :: '-' :: rest => readClass flags turns outer (frame.operate flags .without) rest
    | '~' :: '~' :: rest => readClass flags turns outer (frame.operate flags .either) rest
    | item =>
      match readClassRange flags item with
      | .error error => .error error
      | .ok (accepted, rest) => readClass flags turns outer (frame.add ⟨accepted, 0⟩) rest

end TexAtlas.Pattern
