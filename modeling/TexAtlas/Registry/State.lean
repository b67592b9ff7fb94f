/-
The life of one file during a run. States only move forward, and the two final
states are never left.
-/

namespace TexAtlas

inductive FileState where
  | unresolved
  | dependenciesDiscovered
  | clustered
  | classified
  | registered
  /-- Classification failed; the file is not tried again. -/
  | skipped
  deriving DecidableEq, Repr

namespace FileState

/-- Registered or skipped: nothing is left to do. -/
def isTerminal : FileState → Bool
  | .registered | .skipped => true
  | _ => false

def rank : FileState → Nat
  | .unresolved => 0
  | .dependenciesDiscovered => 1
  | .clustered => 2
  | .classified => 3
  | .registered | .skipped => 4

def canMoveTo (state next : FileState) : Bool :=
  !state.isTerminal && decide (state.rank < next.rank)

/-- The state after an attempt to move. A move that is not allowed changes nothing. -/
def move (state next : FileState) : FileState :=
  if state.canMoveTo next then next else state

/-- The word for a state in written data. -/
def word : FileState → String
  | .unresolved => "Unresolved"
  | .dependenciesDiscovered => "DependenciesDiscovered"
  | .clustered => "Clustered"
  | .classified => "Classified"
  | .registered => "Registered"
  | .skipped => "Skipped"

def all : List FileState :=
  [.unresolved, .dependenciesDiscovered, .clustered, .classified, .registered, .skipped]

/-- The state that a word names. -/
def ofWord? (word : String) : Option FileState :=
  all.find? (fun state => state.word == word)

end FileState

end TexAtlas
