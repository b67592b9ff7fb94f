/-
Switches that change how the rest of a group is read, and the blanks and comments that
one of them allows between the parts of a pattern.
-/

import TexAtlas.Pattern.Basic

namespace TexAtlas.Pattern

/-- Why a text is no pattern. -/
inductive SyntaxError where
  | unclosedGroup
  | unopenedGroup
  | unsupportedGroup
  | badGroupName
  | badFlags
  | unclosedClass
  | badClassRange
  | badEscape
  | unknownProperty
  | missingOperand
  | badCount
  /-- The pattern could match bytes that are no text. -/
  | notText
  | tooDeep
  | tooLarge
  deriving DecidableEq, Repr

structure Flags where
  ignoreCase : Bool
  multiLine : Bool
  dotMatchesAll : Bool
  swapGreed : Bool
  freeSpacing : Bool
  /-- Whether a carriage return ends a line, alone or with a line feed. -/
  returnEndsLine : Bool
  /-- Whether classes and words go beyond ASCII. -/
  unicode : Bool
  deriving DecidableEq, Repr

namespace Flags

/-- The flags at the beginning of a pattern. -/
def initial : Flags :=
  { ignoreCase := false, multiLine := false, dotMatchesAll := false, swapGreed := false,
    freeSpacing := false, returnEndsLine := false, unicode := true }

def set (flags : Flags) (name : Char) (value : Bool) : Option Flags :=
  match name with
  | 'i' => some { flags with ignoreCase := value }
  | 'm' => some { flags with multiLine := value }
  | 's' => some { flags with dotMatchesAll := value }
  | 'U' => some { flags with swapGreed := value }
  | 'x' => some { flags with freeSpacing := value }
  | 'R' => some { flags with returnEndsLine := value }
  | 'u' => some { flags with unicode := value }
  | _ => none

/-- Read flag letters up to the colon or parenthesis after them. `negated` is set after
a hyphen, `dangling` directly after it. -/
def read (flags : Flags) (seen : List Char) (negated dangling : Bool) :
    List Char → Except SyntaxError (Flags × Char × List Char)
  | [] => .error .badFlags
  | c :: rest =>
    if c == ':' || c == ')' then
      if dangling || (c == ')' && seen.isEmpty) then .error .badFlags else .ok (flags, c, rest)
    else if c == '-' then
      if negated then .error .badFlags else read flags seen true true rest
    else if seen.contains c then .error .badFlags
    else match flags.set c (!negated) with
      | some changed => read changed (c :: seen) negated false rest
      | none => .error .badFlags

/-- Input after the blanks, and the comments if one is open, that free spacing allows. -/
def afterComment (flags : Flags) : Bool → List Char → List Char
  | _, [] => []
  | true, c :: rest => flags.afterComment (c != '\n') rest
  | false, c :: rest =>
    if flags.freeSpacing && Text.isBlank c then flags.afterComment false rest
    else if flags.freeSpacing && c == '#' then flags.afterComment true rest
    else c :: rest

/-- Input after the blanks and comments that free spacing allows. -/
def skip (flags : Flags) (input : List Char) : List Char :=
  flags.afterComment false input

/-- A class with its case variants, where case is ignored. -/
def respectCase (flags : Flags) (accepted : CharClass) : CharClass :=
  if !flags.ignoreCase then accepted
  else if flags.unicode then .anyCase accepted
  else .both (.anyCase accepted) (.ranges [('\x00', '\x7f')])

/-- Refuse a class beyond ASCII where bytes are meant: only ASCII is sure to be text. -/
def ensureText (flags : Flags) (accepted : CharClass) : Except SyntaxError CharClass :=
  if flags.unicode || accepted.intervals.all (fun interval => interval.2 ≤ 0x7f) then
    .ok accepted
  else .error .notText

def wordAlphabet (flags : Flags) : WordAlphabet :=
  if flags.unicode then .unicode else .ascii

end Flags

end TexAtlas.Pattern
