/-
Programs: patterns laid out as numbered states. A state reads one character, chooses
between two continuations of which the first is preferred, checks a position, or
accepts. Loops are the only jumps backward.
-/

import TexAtlas.Pattern.Basic

namespace TexAtlas

/-- One state of a program. -/
inductive MatchState where
  | accept
  | letter (accepted : CharClass) (next : Nat)
  | split (preferred other : Nat)
  | position (assertion : Assertion) (next : Nat)
  deriving DecidableEq, Repr

/-- States by number, and the number of the first one. -/
structure MatchProgram where
  states : Array MatchState
  start : Nat

namespace Pattern

def addState (state : MatchState) (states : Array MatchState) : Nat × Array MatchState :=
  (states.size, states.push state)

/-- A split that prefers to go on where the repetition is greedy. -/
def splitState (greedy : Bool) (again done : Nat) : MatchState :=
  if greedy then .split again done else .split done again

/-- Lay out something several times, one after the other, before `next`. -/
def layTimes (lay : Nat → Array MatchState → Nat × Array MatchState) :
    Nat → Nat → Array MatchState → Nat × Array MatchState
  | 0, next, states => (next, states)
  | times + 1, next, states =>
    let (start, laid) := lay next states
    layTimes lay times start laid

/-- Lay out something up to several times. Each time may be left out, and then all
later ones are left out too. -/
def layOptional (lay : Nat → Array MatchState → Nat × Array MatchState) (greedy : Bool)
    (done : Nat) : Nat → Nat → Array MatchState → Nat × Array MatchState
  | 0, next, states => (next, states)
  | times + 1, next, states =>
    let (start, laid) := lay next states
    let (fork, forked) := addState (splitState greedy start done) laid
    layOptional lay greedy done times fork forked

/-- Lay out something at least once: after each time it may begin again. -/
def layLoop (lay : Nat → Array MatchState → Nat × Array MatchState) (greedy : Bool)
    (next : Nat) (states : Array MatchState) : Nat × Nat × Array MatchState :=
  let (fork, reserved) := addState .accept states
  let (start, laid) := lay fork reserved
  (start, fork, laid.setIfInBounds fork (splitState greedy start next))

/-- Lay out a pattern before the state `next`. The number returned is the first state
of the pattern. A loop whose body can be empty is entered once or not at all, so that
an empty turn ends it. -/
def lay : Pattern → Nat → Array MatchState → Nat × Array MatchState
  | empty, next, states => (next, states)
  | letter accepted, next, states => addState (.letter accepted next) states
  | position assertion, next, states => addState (.position assertion next) states
  | sequence first second, next, states =>
    let (middle, laid) := lay second next states
    lay first middle laid
  | choice preferred other, next, states =>
    let (left, laidLeft) := lay preferred next states
    let (right, laidBoth) := lay other next laidLeft
    addState (.split left right) laidBoth
  | repeated body low (some high) greedy, next, states =>
    let (start, laid) := layOptional (lay body) greedy next (high - low) next states
    layTimes (lay body) low start laid
  | repeated body 0 none greedy, next, states =>
    let (start, fork, laid) := layLoop (lay body) greedy next states
    if body.consumes then (fork, laid)
    else addState (splitState greedy start next) laid
  | repeated body (low + 1) none greedy, next, states =>
    let (start, _, laid) := layLoop (lay body) greedy next states
    layTimes (lay body) low start laid

/-- The program of a pattern. -/
def program (pattern : Pattern) : MatchProgram :=
  let (accepting, states) := addState .accept #[]
  let (start, laid) := pattern.lay accepting states
  { states := laid, start := start }

end Pattern

end TexAtlas
