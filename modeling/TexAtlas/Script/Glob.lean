/-
Patterns for names: a star stands for any text, a question mark for any character, and
brackets for one character out of a set. What was quoted stands for itself.
-/

namespace TexAtlas.Script

/-- A character of a word together with whether it was quoted. -/
structure Mark where
  char : Char
  quoted : Bool
  deriving DecidableEq, Repr

/-- One part of a pattern. -/
inductive GlobItem where
  | exactly (c : Char)
  | anyChar
  | anyText
  | oneOf (negated : Bool) (ranges : List (Char × Char))
  deriving DecidableEq, Repr

namespace Glob

/-- The ranges of a named class of characters. -/
def namedClass (name : List Char) : List (Char × Char) :=
  match String.ofList name with
  | "alpha" => [('a', 'z'), ('A', 'Z')]
  | "digit" => [('0', '9')]
  | "alnum" => [('a', 'z'), ('A', 'Z'), ('0', '9')]
  | "upper" => [('A', 'Z')]
  | "lower" => [('a', 'z')]
  | "space" => [(' ', ' '), ('\t', '\r')]
  | "blank" => [(' ', ' '), ('\t', '\t')]
  | "xdigit" => [('0', '9'), ('a', 'f'), ('A', 'F')]
  | "punct" => [('!', '/'), (':', '@'), ('[', '`'), ('\x7b', '~')]
  | "print" => [(' ', '~')]
  | "graph" => [('!', '~')]
  | "cntrl" => [('\x00', '\x1f'), ('\x7f', '\x7f')]
  | _ => []

/-- The ranges of a set up to its bracket. A bracket in front stands for itself. -/
def readSet : Nat → Bool → List Mark → Option (List (Char × Char) × List Mark)
  | 0, _, _ => none
  | _, _, [] => none
  | turns + 1, first, ⟨c, quoted⟩ :: rest =>
    let add := fun (ranges : List (Char × Char)) (after : List Mark) =>
      (readSet turns false after).map (fun (others, final) => (ranges ++ others, final))
    if c == ']' && !quoted && !first then some ([], rest)
    else
      match c, rest with
      | '[', ⟨':', false⟩ :: inner =>
        let name := (inner.map Mark.char).takeWhile (· != ':')
        match inner.drop name.length with
        | _ :: ⟨']', _⟩ :: after => add (namedClass name) after
        | _ => add [(c, c)] rest
      | _, ⟨'-', false⟩ :: ⟨last, lastQuoted⟩ :: after =>
        if last == ']' && !lastQuoted then add [(c, c)] rest else add [(c, last)] after
      | _, _ => add [(c, c)] rest

/-- The pattern that marked characters stand for. An opening bracket without its
partner stands for itself. -/
def ofMarks : Nat → List Mark → List GlobItem
  | 0, _ => []
  | _, [] => []
  | turns + 1, ⟨c, quoted⟩ :: rest =>
    if quoted then .exactly c :: ofMarks turns rest
    else if c == '*' then .anyText :: ofMarks turns rest
    else if c == '?' then .anyChar :: ofMarks turns rest
    else if c == '\\' then
      match rest with
      | ⟨next, _⟩ :: after => .exactly next :: ofMarks turns after
      | [] => [.exactly c]
    else if c == '[' then
      let (negated, inner) := match rest with
        | ⟨'!', false⟩ :: after => (true, after)
        | ⟨'^', false⟩ :: after => (true, after)
        | other => (false, other)
      match readSet (inner.length + 1) true inner with
      | some (ranges, after) => .oneOf negated ranges :: ofMarks turns after
      | none => .exactly c :: ofMarks turns rest
    else .exactly c :: ofMarks turns rest

end Glob

/-- A pattern of marked characters. -/
abbrev Glob := List GlobItem

def Glob.ofWord (marks : List Mark) : Glob :=
  Glob.ofMarks (marks.length + 1) marks

/-- Whether a single character fits an item. -/
def GlobItem.accepts : GlobItem → Char → Bool
  | .exactly expected, c => c == expected
  | .anyChar, _ => true
  | .anyText, _ => true
  | .oneOf negated ranges, c =>
    ranges.any (fun (low, high) => low ≤ c && c ≤ high) != negated

/-- Whether a whole text fits a pattern. -/
def Glob.accepts : Glob → List Char → Bool
  | [], [] => true
  | [], _ :: _ => false
  | .anyText :: items, [] => Glob.accepts items []
  | .anyText :: items, c :: rest =>
    Glob.accepts items (c :: rest) || Glob.accepts (.anyText :: items) rest
  | _ :: _, [] => false
  | item :: items, c :: rest => item.accepts c && Glob.accepts items rest
termination_by items text => items.length + text.length

/-- Whether the marks hold anything that is not taken as it stands. -/
def Glob.isActive (marks : List Mark) : Bool :=
  marks.any (fun mark => !mark.quoted && (mark.char == '*' || mark.char == '?' || mark.char == '['))

/-- The text without the part that a pattern cuts off at the front. -/
def Glob.cutFront (glob : Glob) (longest : Bool) (text : List Char) : List Char :=
  let lengths := List.range (text.length + 1)
  match (if longest then lengths.reverse else lengths).find?
      (fun length => glob.accepts (text.take length)) with
  | some length => text.drop length
  | none => text

/-- The text without the part that a pattern cuts off at the back. -/
def Glob.cutBack (glob : Glob) (longest : Bool) (text : List Char) : List Char :=
  let lengths := List.range (text.length + 1)
  match (if longest then lengths else lengths.reverse).find?
      (fun length => glob.accepts (text.drop length)) with
  | some length => text.take length
  | none => text

end TexAtlas.Script
