/-
The course of a session whose engine calls change the file tree. What a session does is
fixed by the replies it gets and the sources it reads, so a session can be begun anew: with
the first calls answered as they were, it comes to the same point again. A course records
these calls one by one, each with the tree it found. A session is at its end when no call
that is not recorded yet leaves another tree than it found.
-/

import TexAtlas.Host.Compiler
import TexAtlas.File.Source

namespace TexAtlas.Host

/-- A call that was made: the tree it found, and what it came to. -/
structure PastCall where
  found : Tree
  reply : Reply

structure Course where
  /-- The calls so far, in order. -/
  past : Array PastCall
  /-- The tree that they left. -/
  tree : Tree

namespace Course

def start (tree : Tree) : Course :=
  { past := #[], tree := tree }

/-- The tree that a session finds after a number of calls, as far as is known. -/
def treeAfter (course : Course) (asked : Nat) : Tree :=
  ((course.past[asked]?).map PastCall.found).getD course.tree

/-- How sources are read after a number of calls. -/
def read (course : Course) (asked : Nat) : ByteReader :=
  (course.treeAfter asked).readBytes

/-- The compiler after a number of calls. Calls on record are answered as they were. -/
def engine (course : Course) (compiler : Compiler) (system : System) (asked : Nat) : Engine :=
  fun call =>
    match course.past[asked]? with
    | some past => past.reply
    | none => (compiler.compile { system with tree := course.tree } call).1

/-- Record one more call. -/
def extend (course : Course) (compiler : Compiler) (system : System) (call : Call) : Course :=
  let (reply, left) := compiler.compile { system with tree := course.tree } call
  { past := course.past.push { found := course.tree, reply := reply }, tree := left }

/-- Record calls up to the first one that leaves another tree than it found. The course is
missing where there is none. -/
def firstChange (compiler : Compiler) (system : System) : List Call → Course → Option Course
  | [], _ => none
  | call :: calls, course =>
    let next := course.extend compiler system call
    if next.tree.nodes == course.tree.nodes then firstChange compiler system calls next
    else some next

/-- Carry out a work that asks the compiler and tells which calls it made, begun anew after
every change of the tree. The answer comes with the tree that is left. -/
def complete {α : Type} (compiler : Compiler) (system : System)
    (work : (Nat → Engine) → (Nat → ByteReader) → α × List Call) : Nat → Course → α × Tree
  | 0, course => ((work (course.engine compiler system) course.read).1, course.tree)
  | turns + 1, course =>
    let (result, calls) := work (course.engine compiler system) course.read
    match firstChange compiler system (calls.drop course.past.size) course with
    | none => (result, course.tree)
    | some next => complete compiler system work turns next

/-- More calls than any session makes. -/
def ampleCalls : Nat := 16777216

end Course

end TexAtlas.Host
