/-
The registry of resolved components. Every member name of a component is bound to
one shared instance of it; instances are told apart by their number, so that two
components of equal content remain two. Beside the bindings the registry keeps the
state of every file it has heard of.
-/

import TexAtlas.Component
import TexAtlas.Name.Map
import TexAtlas.Registry.State

namespace TexAtlas

/-- A component as it is shared between its names. -/
structure Instance where
  number : Nat
  component : Component
  deriving DecidableEq, Repr

structure Registry where
  bindings : NameMap Instance
  states : NameMap FileState
  /-- The number of the next new instance. -/
  next : Nat

namespace Registry

def empty : Registry :=
  { bindings := .empty, states := .empty, next := 0 }

def get? (registry : Registry) (name : String) : Option Instance :=
  registry.bindings.get? name

def contains (registry : Registry) (name : String) : Bool :=
  (registry.get? name).isSome

def state (registry : Registry) (name : String) : FileState :=
  (registry.states.get? name).getD .unresolved

def isSkipped (registry : Registry) (name : String) : Bool :=
  registry.state name == .skipped

def isSettled (registry : Registry) (name : String) : Bool :=
  (registry.state name).isTerminal

/-- A new instance of a component, bound to no name yet. -/
def allocate (registry : Registry) (component : Component) : Instance × Registry :=
  (⟨registry.next, component⟩, { registry with next := registry.next + 1 })

/-- Try to move a file forward. A file not heard of before takes any state. -/
def advance (registry : Registry) (name : String) (next : FileState) : Registry :=
  let moved := match registry.states.get? name with
    | some state => state.move next
    | none => next
  { registry with states := registry.states.insert name moved }

/-- Bind one name to an instance. -/
def bind (registry : Registry) (name : String) (bound : Instance) : Registry :=
  { registry with bindings := registry.bindings.insert name bound }

/-- Bind every member name to the instance, states left as they are. -/
def replace (registry : Registry) (bound : Instance) : Registry :=
  bound.component.fileNames.foldl (fun registry name => registry.bind name bound) registry

/-- Move several files to one state. -/
def advanceAll (registry : Registry) (names : List String) (next : FileState) : Registry :=
  names.foldl (fun registry name => registry.advance name next) registry

/-- Bind every member name to the instance and mark the files registered. -/
def register (registry : Registry) (bound : Instance) : Registry :=
  (registry.replace bound).advanceAll bound.component.fileNames .registered

def skip (registry : Registry) (names : List String) : Registry :=
  registry.advanceAll names .skipped

/-- Number of bound names. -/
def size (registry : Registry) : Nat :=
  registry.bindings.size

/-- The skipped files by ascending name. -/
def skippedFiles (registry : Registry) : List String :=
  (SortedNames.ofList
    ((registry.states.entries.filter (fun entry => entry.2 == .skipped)).map Prod.fst)).toList

/-- The first occurrence of each instance, numbers in `seen` left out. -/
def distinctInstances (seen : List Nat) : List Instance → List Instance
  | [] => []
  | bound :: rest =>
    if seen.contains bound.number then distinctInstances seen rest
    else bound :: distinctInstances (bound.number :: seen) rest

/-- The place of an instance among instances ordered by file names, after its equals. -/
def placeByNames (bound : Instance) : List Instance → List Instance
  | [] => [bound]
  | head :: tail =>
    if bound.component.fileNames < head.component.fileNames then bound :: head :: tail
    else head :: placeByNames bound tail

/-- Instances ordered by their file names. -/
def sortByNames (instances : List Instance) : List Instance :=
  instances.foldl (fun sorted bound => placeByNames bound sorted) []

/-- The distinct bound instances, ordered by their file names. -/
def instances (registry : Registry) : List Instance :=
  sortByNames (distinctInstances [] registry.bindings.values)

/-- The registered components, ordered by their file names. -/
def components (registry : Registry) : List Component :=
  registry.instances.map Instance.component

/-- Whether two names are bound to the very same instance. -/
def shares (registry : Registry) (left right : String) : Bool :=
  match registry.get? left, registry.get? right with
  | some first, some second => first.number == second.number
  | _, _ => false

end Registry

end TexAtlas
