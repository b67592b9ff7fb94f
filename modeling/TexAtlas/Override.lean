/-
Manual corrections. An override entry names a component through any of its files and
adds symbols to it. Instances are never changed: an entry binds all names of the
component to a new instance with the longer symbol lists.
-/

import TexAtlas.Registry.Basic

namespace TexAtlas

/-- Curated symbols for one component. -/
structure OverrideEntry where
  name : String
  commands : List String
  environments : List String
  deriving DecidableEq, Repr

/-- An entry whose target is not registered. -/
structure OverrideError where
  target : String
  deriving DecidableEq, Repr

def OverrideError.message (error : OverrideError) : String :=
  "override target " ++ error.target ++ " is not a registered component"

namespace Registry

/-- The instance an entry is about. A bare name also stands for its package file. -/
def overrideTarget (registry : Registry) (name : String) : Option Instance :=
  match registry.get? name with
  | some bound => some bound
  | none => if name.toList.contains '.' then none else registry.get? (name ++ ".sty")

/-- Apply one entry, or say that its target is missing. -/
def applyEntry (registry : Registry) (entry : OverrideEntry) :
    Registry × Option OverrideError :=
  match registry.overrideTarget entry.name with
  | none => (registry, some ⟨entry.name⟩)
  | some bound =>
    let (extended, allocated) :=
      registry.allocate (bound.component.extended entry.commands entry.environments)
    (allocated.replace extended, none)

/-- Apply the entries in order. The errors follow the order of the entries. -/
def applyOverrides (registry : Registry) : List OverrideEntry → Registry × List OverrideError
  | [] => (registry, [])
  | entry :: rest =>
    let (changed, error) := registry.applyEntry entry
    let (final, errors) := changed.applyOverrides rest
    (final, error.toList ++ errors)

end Registry

end TexAtlas
