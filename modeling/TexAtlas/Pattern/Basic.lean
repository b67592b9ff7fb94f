/-
Patterns over characters: classes, assertions about a position, and the operators that
combine them. Choices are ordered, and a repetition says whether it prefers to go on
or to stop, because the preferred match is the one that counts.
-/

import TexAtlas.Text.Blank
import TexAtlas.Text.Intervals
import TexAtlas.Text.Property.Word

namespace TexAtlas

/-- Sets of characters as patterns describe them. -/
inductive CharClass where
  | ranges (items : List (Char × Char))
  | word
  | digit
  | blank
  | property (members : Text.Intervals)
  | union (left right : CharClass)
  | both (left right : CharClass)
  | complement (inner : CharClass)
  /-- The characters that differ at most in case from one of the class. -/
  | anyCase (inner : CharClass)
  deriving DecidableEq, Repr

namespace CharClass

def accepts : CharClass → Char → Bool
  | ranges items, c => items.any (fun item => item.1 ≤ c && c ≤ item.2)
  | word, c => Text.isWord c
  | digit, c => Text.isDecimalDigit c
  | blank, c => Text.isBlank c
  | property members, c => members.contains c.toNat
  | union left right, c => left.accepts c || right.accepts c
  | both left right, c => left.accepts c && right.accepts c
  | complement inner, c => !inner.accepts c
  | anyCase inner, c => inner.accepts c || (Text.caseVariants c).any inner.accepts

def single (c : Char) : CharClass :=
  ranges [(c, c)]

def nothing : CharClass :=
  ranges []

def anything : CharClass :=
  complement nothing

/-- What the left class has and the right one has not. -/
def without (left right : CharClass) : CharClass :=
  both left (complement right)

/-- What exactly one of the classes has. -/
def either (left right : CharClass) : CharClass :=
  union (without left right) (without right left)

/-- The word characters of ASCII. -/
def asciiWord : CharClass :=
  ranges [('0', '9'), ('A', 'Z'), ('_', '_'), ('a', 'z')]

def asciiDigit : CharClass :=
  ranges [('0', '9')]

def asciiBlank : CharClass :=
  ranges [('\t', '\r'), (' ', ' ')]

/-- The accepted code points. -/
def intervals : CharClass → Text.Intervals
  | ranges items => .ofRanges (items.map (fun item => (item.1.toNat, item.2.toNat)))
  | word => (0x30, 0x39) :: (0x41, 0x5a) :: (0x5f, 0x5f) :: (0x61, 0x7a) :: Text.wordRanges
  | digit => Text.digitRanges
  | blank => Text.blankRanges
  | property members => members
  | union left right => .union left.intervals right.intervals
  | both left right => .both left.intervals right.intervals
  | complement inner => .complement inner.intervals
  | anyCase inner => .anyCase inner.intervals

end CharClass

/-- Which characters make up words. -/
inductive WordAlphabet where
  | unicode
  | ascii
  deriving DecidableEq, Repr

def WordAlphabet.has : WordAlphabet → Char → Bool
  | unicode, c => Text.isWord c
  | ascii, c => Text.isAsciiWord c

/-- Conditions on a position between characters. -/
inductive Assertion where
  | textStart
  | textEnd
  | lineStart
  | lineEnd
  /-- The beginning of a line where a carriage return, a line feed or the two together
  end the line before it. -/
  | returnLineStart
  | returnLineEnd
  | wordBoundary (alphabet : WordAlphabet)
  | notWordBoundary (alphabet : WordAlphabet)
  | wordStart (alphabet : WordAlphabet)
  | wordEnd (alphabet : WordAlphabet)
  | noWordBefore (alphabet : WordAlphabet)
  | noWordAfter (alphabet : WordAlphabet)
  deriving DecidableEq, Repr

namespace Assertion

def besideWord (alphabet : WordAlphabet) : Option Char → Bool
  | some c => alphabet.has c
  | none => false

/-- Whether the condition holds between two neighbours, where a missing neighbour is
the end of the text. -/
def holds (assertion : Assertion) (before after : Option Char) : Bool :=
  match assertion with
  | textStart => before == none
  | textEnd => after == none
  | lineStart => before == none || before == some '\n'
  | lineEnd => after == none || after == some '\n'
  | returnLineStart =>
    before == none || before == some '\n' || (before == some '\r' && after != some '\n')
  | returnLineEnd =>
    after == none || after == some '\r' || (after == some '\n' && before != some '\r')
  | wordBoundary alphabet => besideWord alphabet before != besideWord alphabet after
  | notWordBoundary alphabet => besideWord alphabet before == besideWord alphabet after
  | wordStart alphabet => !besideWord alphabet before && besideWord alphabet after
  | wordEnd alphabet => besideWord alphabet before && !besideWord alphabet after
  | noWordBefore alphabet => !besideWord alphabet before
  | noWordAfter alphabet => !besideWord alphabet after

end Assertion

inductive Pattern where
  | empty
  | letter (accepted : CharClass)
  | position (assertion : Assertion)
  | sequence (first second : Pattern)
  /-- The left side is preferred. -/
  | choice (preferred other : Pattern)
  /-- At least `low` times; at most `high` times, where a bound is given. -/
  | repeated (body : Pattern) (low : Nat) (high : Option Nat) (greedy : Bool)
  deriving DecidableEq, Repr

namespace Pattern

/-- Whether every match has at least one character. -/
def consumes : Pattern → Bool
  | empty => false
  | letter _ => true
  | position _ => false
  | sequence first second => first.consumes || second.consumes
  | choice preferred other => preferred.consumes && other.consumes
  | repeated body low _ _ => decide (0 < low) && body.consumes

def sequenceOf (items : List Pattern) : Pattern :=
  match items with
  | [] => empty
  | [item] => item
  | item :: rest => sequence item (sequenceOf rest)

def choiceOf (items : List Pattern) : Pattern :=
  match items with
  | [] => empty
  | [item] => item
  | item :: rest => choice item (choiceOf rest)

end Pattern

end TexAtlas
