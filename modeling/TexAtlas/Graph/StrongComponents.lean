/-
Strongly connected components by one depth-first walk. Nodes are numbered in the
order in which the walk opens them and wait on a stack. A node from which no older
waiting node can be reached closes its component: everything above it on the stack.
Components come out after all components they point at.
-/

import TexAtlas.Graph.Basic

namespace TexAtlas.Graph

/-- The state of the walk. -/
structure Walk where
  /-- Opened nodes with their numbers. -/
  numbers : NameMap Nat
  /-- Nodes of no closed component yet, the latest first. -/
  stack : List String
  /-- Closed components, the first closed first. -/
  closed : List (List String)

namespace Walk

def initial : Walk :=
  { numbers := .empty, stack := [], closed := [] }

/-- The number of the next node to be opened. -/
def next (walk : Walk) : Nat :=
  walk.numbers.size

def number? (walk : Walk) (node : String) : Option Nat :=
  walk.numbers.get? node

def isWaiting (walk : Walk) (node : String) : Bool :=
  walk.stack.contains node

def openNode (walk : Walk) (node : String) : Walk :=
  { walk with numbers := walk.numbers.insert node walk.next, stack := node :: walk.stack }

/-- Close the component of a node: the stack down to and including the node. -/
def closeNode (walk : Walk) (node : String) : Walk :=
  { walk with
    stack := (walk.stack.dropWhile (· != node)).drop 1
    closed := walk.closed ++ [walk.stack.takeWhile (· != node) ++ [node]] }

end Walk

/-- Walk below an unopened node. The number returned is the least among the node and
the waiting nodes seen from below it. The depth of the walk is at most the number of
nodes, which `depth` bounds. -/
def visit (graph : Graph) : Nat → String → Walk → Nat × Walk
  | 0, _, walk => (walk.next, walk)
  | depth + 1, node, walk =>
    let number := walk.next
    let (low, after) :=
      (graph.targets node).foldl
        (fun (low, walk) target =>
          match walk.number? target with
          | none =>
            let (below, after) := visit graph depth target walk
            (min low below, after)
          | some seen => if walk.isWaiting target then (min low seen, walk) else (low, walk))
        (number, walk.openNode node)
    if low = number then (number, after.closeNode node) else (low, after)

/-- Walk below a node unless it was opened before. -/
def visitRoot (graph : Graph) (walk : Walk) (node : String) : Walk :=
  match walk.number? node with
  | some _ => walk
  | none => (visit graph graph.size node walk).2

/-- The strongly connected components, every component after those it points at. -/
def strongComponents (graph : Graph) : List (List String) :=
  (graph.keys.foldl (visitRoot graph) Walk.initial).closed

end TexAtlas.Graph
