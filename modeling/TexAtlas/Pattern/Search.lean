/-
Searching a text with a program. Ways to match are tried in order of preference, depth
first, and the first that reaches an accepting state counts. What comes of a state at a
place does not depend on how it was reached, so no state is tried twice at one place: the
second time it is known to fail, in the same search and in later ones. So a search takes no
more turns than there are states at places. Matches are found from left to right without
overlap.
-/

import Std.Data.TreeSet
import TexAtlas.Pattern.Program

namespace TexAtlas.MatchProgram

/-- A place in a text: how many characters are before it, the last of them, and the
characters behind it. -/
structure Place where
  offset : Nat
  before : Option Char
  rest : List Char

/-- The states that were tried at places. -/
abbrev Tried := Std.TreeSet Nat

/-- The number that stands for a state at an offset. -/
def trial (program : MatchProgram) (offset number : Nat) : Nat :=
  offset * program.states.size + number

/-- What is left to try when a state was reached, preferred first. -/
def continuations (place : Place) : MatchState → List (Nat × Place)
  | .accept => []
  | .letter accepted next =>
    match place.rest with
    | [] => []
    | c :: rest =>
      if accepted.accepts c then
        [(next, { offset := place.offset + 1, before := some c, rest := rest })]
      else []
  | .split preferred other => [(preferred, place), (other, place)]
  | .position assertion next =>
    if assertion.holds place.before place.rest.head? then [(next, place)] else []

/-- Try states at places, the first of the list and all that follows from it first. The
answer is the place where a match ends, and what was tried. `steps` bounds the number of
states ever taken from the list. -/
def attempt (program : MatchProgram) : Nat → List (Nat × Place) → Tried → Option Place × Tried
  | 0, _, tried => (none, tried)
  | _ + 1, [], tried => (none, tried)
  | steps + 1, (number, place) :: others, tried =>
    match program.states[number]? with
    | none => program.attempt steps others tried
    | some state =>
      if tried.contains (program.trial place.offset number) then
        program.attempt steps others tried
      else
        let grown := tried.insert (program.trial place.offset number)
        match state with
        | .accept => (some place, grown)
        | state => program.attempt steps (continuations place state ++ others) grown

/-- Forget what was tried at one place. -/
def forget (program : MatchProgram) (offset : Nat) (tried : Tried) : Tried :=
  (List.range program.states.size).foldl
    (fun tried number => tried.erase (program.trial offset number)) tried

/-- The length of the preferred match at a place, and what is known to fail behind it.
States at the end of a match may have been left before all of their continuations were
tried, so nothing is known of them. -/
def matchLength (program : MatchProgram) (steps : Nat) (place : Place) (tried : Tried) :
    Option Nat × Tried :=
  match program.attempt steps [(program.start, place)] tried with
  | (none, failed) => (none, failed)
  | (some final, failed) =>
    (some (final.offset - place.offset), program.forget final.offset failed)

/-- The matches in a text, left to right. `skip` characters belong to the last match;
an empty match directly after a match does not count. -/
def matchesFrom (program : MatchProgram) (steps offset : Nat) (before : Option Char)
    (skip : Nat) (afterMatch : Bool) (tried : Tried) : List Char → List (List Char)
  | [] =>
    if skip == 0 && !afterMatch &&
        (program.matchLength steps ⟨offset, before, []⟩ tried).1 == some 0 then [[]]
    else []
  | c :: rest =>
    match skip with
    | skip + 1 => program.matchesFrom steps (offset + 1) (some c) skip afterMatch tried rest
    | 0 =>
      match program.matchLength steps ⟨offset, before, c :: rest⟩ tried with
      | (none, failed) => program.matchesFrom steps (offset + 1) (some c) 0 false failed rest
      | (some 0, failed) =>
        (if afterMatch then [] else [[]]) ++
          program.matchesFrom steps (offset + 1) (some c) 0 false failed rest
      | (some (length + 1), failed) =>
        (c :: rest).take (length + 1) ::
          program.matchesFrom steps (offset + 1) (some c) length true failed rest

/-- Every state is tried once at each place, and leaves at most two others to try. -/
def stepBound (program : MatchProgram) (text : List Char) : Nat :=
  3 * (program.states.size + 1) * (text.length + 1)

/-- All matches in a text, left to right. -/
def matchesIn (program : MatchProgram) (text : List Char) : List (List Char) :=
  program.matchesFrom (program.stepBound text) 0 none 0 false ∅ text

end TexAtlas.MatchProgram
