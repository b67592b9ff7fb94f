/-
Escapes: what a backslash and the characters after it stand for.
-/

import TexAtlas.Pattern.Flags
import TexAtlas.Text.Property.Named

namespace TexAtlas.Pattern

inductive Escape where
  | literal (c : Char)
  | charClass (accepted : CharClass)
  | position (assertion : Assertion)

/-! ### Code points -/

def hexValue? (c : Char) : Option Nat :=
  if '0' ≤ c && c ≤ '9' then some (c.toNat - 48)
  else if 'a' ≤ c && c ≤ 'f' then some (c.toNat - 87)
  else if 'A' ≤ c && c ≤ 'F' then some (c.toNat - 55)
  else none

/-- The number that hexadecimal digits write, if all are digits and there is one. -/
def hexNumber? (digits : List Char) : Option Nat :=
  if digits.isEmpty then none
  else digits.foldl
    (fun total c => total.bind (fun value => (hexValue? c).map (fun digit => value * 16 + digit)))
    (some 0)

/-- The character of a code point, unless it is a surrogate or out of range. -/
def charOfCode? (code : Nat) : Option Char :=
  if code < 0xd800 || (0xdfff < code && code < 0x110000) then some (Char.ofNat code) else none

/-- The characters up to a closing brace, without the spacing between them. -/
def readBraced (flags : Flags) : Nat → List Char → Option (List Char × List Char)
  | 0, _ => none
  | turns + 1, input =>
    match flags.skip input with
    | [] => none
    | '\x7d' :: rest => some ([], rest)
    | c :: rest =>
      (readBraced flags turns rest).map (fun found => (c :: found.1, found.2))

/-- A fixed number of characters, without the spacing between them. -/
def readCounted (flags : Flags) : Nat → List Char → Option (List Char × List Char)
  | 0, input => some ([], input)
  | count + 1, input =>
    match flags.skip input with
    | [] => none
    | c :: rest =>
      (readCounted flags count rest).map (fun found => (c :: found.1, found.2))

/-- A code point written in braces or with a fixed number of digits. Two digits write a
byte where bytes are meant. -/
def readCode (flags : Flags) (count : Nat) (input : List Char) :
    Except SyntaxError (Escape × List Char) :=
  let found := match flags.skip input with
    | '\x7b' :: inner =>
      (readBraced flags (inner.length + 1) inner).map (fun found => (true, found))
    | spaced => (readCounted flags count spaced).map (fun found => (false, found))
  match found with
  | none => .error .badEscape
  | some (braced, digits, rest) =>
    match (hexNumber? digits).bind charOfCode? with
    | none => .error .badEscape
    | some c =>
      if !flags.unicode && !braced && count = 2 && 0x80 ≤ c.toNat then .error .notText
      else .ok (.literal c, rest)

/-! ### Properties -/

/-- Cut a name at the first sign between a property and its value. -/
def cutValue : List Char → List Char → Option (List Char × Bool × List Char)
  | _, [] => none
  | before, '!' :: '=' :: rest => some (before.reverse, true, rest)
  | before, c :: rest => cutValue (c :: before) rest

/-- The name of a property, possibly with a value after `:` or `=`, and whether the sign
between them negates it. -/
def splitProperty (name : List Char) : List Char × Option (List Char) × Bool :=
  match cutValue [] name with
  | some (property, negated, value) => (property, some value, negated)
  | none =>
    let sign := if name.contains ':' then ':' else '='
    if name.contains sign then
      (name.takeWhile (· != sign), some ((name.dropWhile (· != sign)).drop 1), false)
    else (name, none, false)

/-- A class named by a property of Unicode: one letter, or a name in braces. -/
def readProperty (flags : Flags) (negated : Bool) (input : List Char) :
    Except SyntaxError (Escape × List Char) :=
  let found := match flags.skip input with
    | '\x7b' :: inner => readBraced flags (inner.length + 1) inner
    | '\\' :: _ => none
    | c :: rest => some ([c], rest)
    | [] => none
  match found with
  | none => .error .badEscape
  | some (name, rest) =>
    let (property, value, reversed) := splitProperty name
    match Text.membersNamed? property value with
    | none => .error .unknownProperty
    | some members =>
      if !flags.unicode then .error .notText
      else
        let accepted := flags.respectCase (.property members)
        .ok (.charClass (if negated != reversed then .complement accepted else accepted), rest)

/-! ### Positions -/

def isBoundaryLetter (c : Char) : Bool :=
  c.isAlpha || c == '-'

/-- The side of a word that a boundary in braces names. -/
def boundarySide? (alphabet : WordAlphabet) (name : List Char) : Option Assertion :=
  if name = "start".toList then some (.wordStart alphabet)
  else if name = "end".toList then some (.wordEnd alphabet)
  else if name = "start-half".toList then some (.noWordBefore alphabet)
  else if name = "end-half".toList then some (.noWordAfter alphabet)
  else none

/-- A word boundary, possibly with the side of the word in braces. Braces that begin with
no letter are left for a counted repetition. -/
def readBoundary (flags : Flags) (input : List Char) : Except SyntaxError (Escape × List Char) :=
  let plain := (Escape.position (.wordBoundary flags.wordAlphabet), input)
  match input with
  | '\x7b' :: inner =>
    match flags.skip inner with
    | [] => .error .badEscape
    | first :: _ =>
      if !isBoundaryLetter first then .ok plain
      else
        match readBraced flags (inner.length + 1) inner with
        | none => .error .badEscape
        | some (name, rest) =>
          match boundarySide? flags.wordAlphabet name with
          | some assertion => .ok (.position assertion, rest)
          | none => .error .badEscape
  | _ => .ok plain

/-! ### All escapes -/

/-- ASCII characters that stand for themselves after a backslash. -/
def isEscapable (c : Char) : Bool :=
  c.toNat < 0x80 && !c.isAlphanum && c != '<' && c != '>'

/-- The class of a letter after a backslash, in Unicode and in ASCII. A capital letter
stands for the complement, which where bytes are meant is no text. -/
def readShorthand (flags : Flags) (unicode ascii : CharClass) (negated : Bool)
    (rest : List Char) : Except SyntaxError (Escape × List Char) :=
  let accepted := if flags.unicode then unicode else ascii
  if !negated then .ok (.charClass accepted, rest)
  else if flags.unicode then .ok (.charClass (.complement accepted), rest)
  else .error .notText

/-- Read what follows a backslash. -/
def readEscape (flags : Flags) : List Char → Except SyntaxError (Escape × List Char)
  | [] => .error .badEscape
  | c :: rest =>
    match c with
    | 'd' => readShorthand flags .digit .asciiDigit false rest
    | 'D' => readShorthand flags .digit .asciiDigit true rest
    | 's' => readShorthand flags .blank .asciiBlank false rest
    | 'S' => readShorthand flags .blank .asciiBlank true rest
    | 'w' => readShorthand flags .word .asciiWord false rest
    | 'W' => readShorthand flags .word .asciiWord true rest
    | 'p' => readProperty flags false rest
    | 'P' => readProperty flags true rest
    | 'b' => readBoundary flags rest
    | 'B' => .ok (.position (.notWordBoundary flags.wordAlphabet), rest)
    | '<' => .ok (.position (.wordStart flags.wordAlphabet), rest)
    | '>' => .ok (.position (.wordEnd flags.wordAlphabet), rest)
    | 'A' => .ok (.position .textStart, rest)
    | 'z' => .ok (.position .textEnd, rest)
    | 'a' => .ok (.literal '\x07', rest)
    | 'f' => .ok (.literal '\x0c', rest)
    | 't' => .ok (.literal '\t', rest)
    | 'n' => .ok (.literal '\n', rest)
    | 'r' => .ok (.literal '\r', rest)
    | 'v' => .ok (.literal '\x0b', rest)
    | 'x' => readCode flags 2 rest
    | 'u' => readCode flags 4 rest
    | 'U' => readCode flags 8 rest
    | _ => if isEscapable c then .ok (.literal c, rest) else .error .badEscape

end TexAtlas.Pattern
