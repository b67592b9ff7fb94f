/-
Which components can be reached in a registry from given names, following
references from component to component. The walk is breadth first over names and
remembers instances, so an instance is reached once even under many names.
-/

import TexAtlas.Registry.Basic

namespace TexAtlas.Registry

/-- Follow the waiting names. Every name is taken from the queue once; `steps` bounds
how many names can ever wait. -/
def follow (registry : Registry) : Nat → List String → List Instance → List Instance
  | 0, _, reached => reached
  | _ + 1, [], reached => reached
  | steps + 1, name :: waiting, reached =>
    match registry.get? name with
    | none => follow registry steps waiting reached
    | some bound =>
      if reached.any (fun other => other.number == bound.number) then
        follow registry steps waiting reached
      else
        follow registry steps (waiting ++ bound.component.references) (reached ++ [bound])

/-- How many references the bound instances have, counted once for every bound name. -/
def referenceCount (registry : Registry) : Nat :=
  registry.bindings.values.foldr
    (fun bound count => bound.component.references.length + count) 0

/-- The instances reachable from the roots, nearest first. A root counts with the
component it belongs to; a name that is not bound ends the walk there. -/
def reachable (registry : Registry) (roots : List String) : List Instance :=
  registry.follow (roots.length + registry.referenceCount) roots []

end TexAtlas.Registry
