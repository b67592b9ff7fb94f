/-
A session: one run of attribution over a name index. Its settings never change; its
state is what was found out about files, the registry, and a journal of everything
that was asked of the engine.
-/

import TexAtlas.Clustering
import TexAtlas.Probe.Classifier
import TexAtlas.Probe.Listing
import TexAtlas.Registry.Reachable
import TexAtlas.Scanner

namespace TexAtlas

/-- Everything that a session is given. -/
structure Settings where
  index : FileIndex
  /-- The engine after a number of calls. Calls may leave behind what later ones find. -/
  engine : Nat → Engine
  probeBudget : Duration
  classifyBudget : Duration
  /-- Files that every probe loads, the host class first. -/
  baseline : NameSet
  kernel : Kernel
  /-- The grammar of candidate names. -/
  grammar : MatchProgram
  /-- How sources are read after a number of engine calls. -/
  read : Nat → ByteReader
  pool : TaskPool
  /-- In which order tasks of one level take their steps, given the files of each. A
  task whose number does not come up often enough is finished in its turn. -/
  schedule : List (List String) → List Nat
  /-- How many waves the discovery of one closure may take. -/
  waveLimit : Nat

namespace Settings

/-- The lister after a number of engine calls. -/
def lister (settings : Settings) (asked : Nat) : Probe.Lister :=
  { index := settings.index
    engine := settings.engine asked
    budget := settings.probeBudget
    baseline := settings.baseline }

/-- The classifier after a number of engine calls. -/
def classifier (settings : Settings) (asked : Nat) : Probe.Classifier :=
  { engine := settings.engine asked, budget := settings.classifyBudget }

/-- The scanner after a number of engine calls. -/
def scanner (settings : Settings) (asked : Nat) : Scanner :=
  { grammar := settings.grammar, read := settings.read asked }

end Settings

/-- What a session notes down. -/
inductive Event where
  /-- The engine was asked which files a file loads. -/
  | listed (file : File)
  /-- The components that a group reaches were looked up in this registry. -/
  | surveyed (members : List String) (registry : Registry)
  /-- The candidates of a group were handed to the classifier. -/
  | classified (lead : File) (candidates : SortedNames)

/-- The engine calls that an event stands for. -/
def Event.calls (settings : Settings) : Event → List Call
  | listed file => [(settings.lister 0).call file]
  | surveyed _ _ => []
  | classified lead candidates => (settings.classifier 0).calls lead candidates

/-- How many engine calls an event stands for. -/
def Event.callCount : Event → Nat
  | listed _ => 1
  | surveyed _ _ => 0
  | classified _ candidates => if candidates.isEmpty then 0 else 1

structure Session where
  /-- What the files probed so far load, in the order of probing. -/
  memo : NameMap Dependency
  registry : Registry
  journal : List Event

namespace Session

/-- A session that starts from a registry. -/
def start (registry : Registry) : Session :=
  { memo := .empty, registry := registry, journal := [] }

/-- A session that starts with nothing registered. -/
def initial : Session :=
  start .empty

def note (session : Session) (events : List Event) : Session :=
  { session with journal := session.journal ++ events }

/-- The engine calls made so far, in order. -/
def calls (settings : Settings) (session : Session) : List Call :=
  session.journal.flatMap (Event.calls settings)

/-- Number of engine calls made so far. -/
def asked (session : Session) : Nat :=
  session.journal.foldl (fun asked event => asked + event.callCount) 0

/-- Number of distinct files probed so far. -/
def probed (session : Session) : Nat :=
  session.memo.size

end Session

end TexAtlas
