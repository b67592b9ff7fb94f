/-
The room that the automaton of an expression takes. The automaton reads bytes: a
character beyond ASCII takes a state for each of its bytes, and a class shares states
between characters with equal endings when it is read forward and with equal
beginnings when it is read backward. Repetitions are written out. A pattern is refused
when its automaton takes too much room in either direction.
-/

import TexAtlas.Pattern.Expression

namespace TexAtlas.Pattern

/-- Bytes that encode characters, as a range for each place. -/
abbrev ByteRanges := List (Nat × Nat)

/-- The bytes of a code point in UTF-8. -/
def encodedBytes (code : Nat) : List Nat :=
  if code < 0x80 then [code]
  else if code < 0x800 then [0xc0 + code / 64, 0x80 + code % 64]
  else if code < 0x10000 then
    [0xe0 + code / 4096, 0x80 + code / 64 % 64, 0x80 + code % 64]
  else
    [0xf0 + code / 262144, 0x80 + code / 4096 % 64, 0x80 + code / 64 % 64, 0x80 + code % 64]

/-- Cut an interval where the bytes before the last ones change, so that each piece
varies in its last bytes only or in all of them alike. -/
def cutBlocks : List Nat → Nat → Nat → List (Nat × Nat)
  | [], low, high => [(low, high)]
  | block :: larger, low, high =>
    if low / block = high / block then [(low, high)]
    else
      let start := (low + block - 1) / block * block
      let before := if start = low then [] else [(low, start - 1)]
      if start / block = high / block ∧ start ≠ low then before ++ cutBlocks larger start high
      else
        let stop := (high + 1) / block * block
        let after := if stop = high + 1 then [] else [(stop, high)]
        before ++ cutBlocks larger start (stop - 1) ++ after

/-- Cut an interval at the ends of the code points of one length. -/
def cutLengths : List Nat → Nat → Nat → List (Nat × Nat)
  | [], low, high => [(low, high)]
  | last :: longer, low, high =>
    if high ≤ last then [(low, high)]
    else if low ≤ last then (low, last) :: cutLengths longer (last + 1) high
    else cutLengths longer low high

/-- The byte ranges of an interval of characters, in ascending order. -/
def byteRangesOf (low high : Nat) : List ByteRanges :=
  (cutLengths [0x7f, 0x7ff, 0xd7ff, 0xffff] low high).flatMap (fun part =>
    (cutBlocks [64, 4096, 262144] part.1 part.2).map (fun piece =>
      (encodedBytes piece.1).zip (encodedBytes piece.2)))

/-- Every beginning of a sequence, the shortest first, without the empty one. -/
def beginnings (sequence : List α) : List (List α) :=
  (List.range sequence.length).map (fun index => sequence.take (index + 1))

/-- How often something differs from what stands before it. -/
def changes [BEq α] : List α → Nat
  | [] => 0
  | [_] => 1
  | first :: second :: rest => (if first == second then 0 else 1) + changes (second :: rest)

/-- The parts after the first range, gathered where the first ranges are equal. -/
def gatherTails : List ByteRanges → List (List ByteRanges)
  | [] => []
  | [] :: rest => gatherTails rest
  | (head :: tail) :: rest =>
    match rest, gatherTails rest with
    | (next :: _) :: _, group :: groups =>
      if head == next then (tail :: group) :: groups else [tail] :: group :: groups
    | _, groups => [tail] :: groups

/-- The states that read some sequences forward, by how many places are left: each state
is given by the sequences that it reads. -/
def forwardStates : Nat → List (List ByteRanges) → List (List ByteRanges)
  | 0, _ => []
  | places + 1, states =>
    let reading := states.filter (fun sequences => sequences.any (fun ranges => !ranges.isEmpty))
    reading ++ forwardStates places (reading.flatMap gatherTails).eraseDups

/-! ### Sizes -/

def stateSize : Nat := 32
def transitionSize : Nat := 8
def branchSize : Nat := 4

/-- A state that chooses between two ways. -/
def forkSize : Nat := stateSize + 2 * branchSize

/-- Which way an automaton reads. -/
inductive Direction where
  | forward
  | backward
  deriving DecidableEq, Repr

def classSize (direction : Direction) (members : Text.Intervals) : Nat :=
  if members.all (fun interval => interval.2 ≤ 0x7f) then
    2 * stateSize + transitionSize * members.length
  else
    let sequences := members.flatMap (fun interval => byteRangesOf interval.1 interval.2)
    match direction with
    | .forward =>
      let states := (forwardStates 4 [sequences]).eraseDups
      states.foldl
        (fun total state => total + stateSize + transitionSize * changes (state.map List.head?))
        stateSize
    | .backward =>
      let states := changes ((sequences.map (fun ranges => ranges.take 1))) +
        changes ((sequences.filter (fun ranges => 1 < ranges.length)).map (List.take 2)) +
        changes ((sequences.filter (fun ranges => 2 < ranges.length)).map (List.take 3)) +
        changes ((sequences.filter (fun ranges => 3 < ranges.length)).map (List.take 4))
      2 * stateSize + branchSize * sequences.length + stateSize * states

/-- The text of an expression that is a literal. -/
def literalText? : Expression → Option (List Char)
  | .literal text => some text
  | _ => none

/-- Literals that share their beginnings. -/
def literalsSize (direction : Direction) (literals : List (List Char)) : Nat :=
  let spelled := literals.map (fun text =>
    let bytes := text.flatMap (fun c => encodedBytes c.toNat)
    match direction with
    | .forward => bytes
    | .backward => bytes.reverse)
  let reached := (spelled.flatMap beginnings).eraseDups
  let inner := ([] :: spelled.flatMap (fun bytes => beginnings bytes.dropLast)).eraseDups
  inner.foldl (fun total start =>
    let ways := reached.countP (fun text => text.dropLast == start)
    total + 2 * stateSize + branchSize + (if ways = 1 then 0 else transitionSize * ways))
    stateSize

/-- The size of a repetition whose body has the given size. -/
def repetitionSize (size : Nat) (consumes : Bool) : Nat → Option Nat → Nat
  | 0, none =>
    if consumes then forkSize + size else 2 * forkSize + stateSize + size
  | low + 1, none => (low + 1) * size + forkSize
  | 0, some 1 => forkSize + stateSize + size
  | low, some high =>
    if low = high then low * size
    else (if low = 0 then stateSize else low * size) + stateSize + (high - low) * (forkSize + size)

mutual

def sizeOf (direction : Direction) : Expression → Nat
  | .empty => stateSize
  | .literal text => text.foldl (fun total c => total + stateSize * c.utf8Size) 0
  | .oneOf accepted => classSize direction accepted.intervals
  | .position _ => stateSize
  | .repeated body low high _ => repetitionSize (sizeOf direction body) body.consumes low high
  | .captured body =>
    match direction with
    | .forward => 2 * stateSize + sizeOf direction body
    | .backward => sizeOf direction body
  | .sequence items => sumOfSizes direction items
  | .choice branches =>
    match branches.mapM literalText? with
    | some literals => literalsSize direction literals
    | none =>
      2 * stateSize + branchSize * branches.length + sumOfSizes direction branches

def sumOfSizes (direction : Direction) : List Expression → Nat
  | [] => 0
  | item :: rest => sizeOf direction item + sumOfSizes direction rest

end

/-- The states around an expression: those that look for a place where a match begins,
those that note where the whole match is, and the accepting one. -/
def frameSize : Direction → Nat
  | .forward => forkSize + 5 * stateSize + transitionSize
  | .backward => forkSize + 3 * stateSize + transitionSize

/-- The most room an automaton may take: ten mebibytes. -/
def sizeLimit : Nat := 10485760

/-- Whether the automata of an expression keep to the limit. -/
def fits (expression : Expression) : Bool :=
  sizeOf .forward expression + frameSize .forward ≤ sizeLimit &&
    sizeOf .backward expression + frameSize .backward ≤ sizeLimit

end TexAtlas.Pattern
