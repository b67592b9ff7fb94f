/-
Sets of code points, kept as intervals in ascending order that neither overlap nor
touch. Each set has one such list, so sets are equal exactly when their lists are.
-/

import TexAtlas.Text.Property.Folding

namespace TexAtlas.Text

abbrev Intervals := List (Nat × Nat)

namespace Intervals

/-- Add one interval. Intervals that it overlaps or touches become part of it. -/
def insert (low high : Nat) : Intervals → Intervals
  | [] => [(low, high)]
  | (first, last) :: rest =>
    if high + 1 < first then (low, high) :: (first, last) :: rest
    else if last + 1 < low then (first, last) :: insert low high rest
    else insert (min low first) (max high last) rest

def union (left right : Intervals) : Intervals :=
  left.foldr (fun interval joined => insert interval.1 interval.2 joined) right

def ofRanges (ranges : List (Nat × Nat)) : Intervals :=
  union ranges []

/-- What lies between the intervals from a code point on. -/
def gapsFrom (start : Nat) : Intervals → Intervals
  | [] => if start ≤ 0x10ffff then [(start, 0x10ffff)] else []
  | (low, high) :: rest =>
    if start < low then (start, low - 1) :: gapsFrom (high + 1) rest
    else gapsFrom (high + 1) rest

/-- The code points that stand for no character. -/
def surrogates : Intervals :=
  [(0xd800, 0xdfff)]

/-- The characters outside a set. -/
def complement (set : Intervals) : Intervals :=
  gapsFrom 0 (union surrogates set)

def both (left right : Intervals) : Intervals :=
  complement (union (complement left) (complement right))

def contains (set : Intervals) (code : Nat) : Bool :=
  set.any (fun interval => interval.1 ≤ code && code ≤ interval.2)

/-- Pairs of a character that folds to another one, and that other one. -/
def foldingPairs : List (Nat × Nat) :=
  foldingRuns.flatMap (fun run =>
    (List.range ((run.last - run.first) / run.stride + 1)).map (fun index =>
      let code := run.first + index * run.stride
      (code, (Int.ofNat code + run.distance).toNat)))

/-- A set with everything that differs at most in case from one of its members. -/
def anyCase (set : Intervals) : Intervals :=
  let folded := (foldingPairs.filter (fun pair => set.contains pair.1 || set.contains pair.2)).map
    (fun pair => (pair.2, pair.2))
  let targets := ofRanges folded
  let unfolded := (foldingPairs.filter (fun pair => targets.contains pair.2)).map
    (fun pair => (pair.1, pair.1))
  union unfolded (union folded set)

end Intervals

end TexAtlas.Text
