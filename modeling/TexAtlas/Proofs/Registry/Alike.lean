/-
Registries that are alike on a file: the file is in the same state, and what is bound to it
says the same, whatever its number. From roots in a set of files on which two registries are
alike, and which nothing bound in it leaves, both lead to the same components.
-/

import TexAtlas.Proofs.Registry.Reachable

namespace TexAtlas.Registry

/-- Two registries tell the same about a file, up to the identity of instances. -/
structure AlikeOn (registry other : Registry) (name : String) : Prop where
  state : other.state name = registry.state name
  component : (other.get? name).map Instance.component =
    (registry.get? name).map Instance.component

namespace AlikeOn

variable {registry other third : Registry} {name : String}

theorem refl (registry : Registry) (name : String) : registry.AlikeOn registry name :=
  ⟨rfl, rfl⟩

theorem symm (alike : registry.AlikeOn other name) : other.AlikeOn registry name :=
  ⟨alike.state.symm, alike.component.symm⟩

theorem trans (first : registry.AlikeOn other name) (second : other.AlikeOn third name) :
    registry.AlikeOn third name :=
  ⟨second.state.trans first.state, second.component.trans first.component⟩

theorem isSettled (alike : registry.AlikeOn other name) :
    other.isSettled name = registry.isSettled name :=
  congrArg FileState.isTerminal alike.state

theorem isSkipped (alike : registry.AlikeOn other name) :
    other.isSkipped name = registry.isSkipped name := by
  rw [Registry.isSkipped, Registry.isSkipped, alike.state]

theorem contains (alike : registry.AlikeOn other name) :
    other.contains name = registry.contains name := by
  have same := congrArg Option.isSome alike.component
  rwa [Option.isSome_map, Option.isSome_map] at same

theorem exists_twin (alike : registry.AlikeOn other name) {bound : Instance}
    (held : registry.get? name = some bound) :
    ∃ twin, other.get? name = some twin ∧ twin.component = bound.component := by
  have same := alike.component
  rw [held] at same
  exact Option.map_eq_some_iff.mp same

end AlikeOn

/-- Where an instance is bound under its file names, alike registries bind the same names
together. -/
theorem shares_congr {registry other : Registry} (alike : ∀ name, registry.AlikeOn other name)
    (numbered : registry.Numbered) (exact : registry.BoundExactly)
    (otherNumbered : other.Numbered) (otherExact : other.BoundExactly) (left right : String) :
    other.shares left right = registry.shares left right := by
  have half : ∀ {one two : Registry}, one.Numbered → one.BoundExactly → two.Numbered →
      two.BoundExactly → one.AlikeOn two left → one.shares left right = true →
        two.shares left right = true := by
    intro one two oneNumbered oneExact twoNumbered twoExact same shares
    obtain ⟨bound, _, held, _, _⟩ := (shares_iff one left right).mp shares
    obtain ⟨twin, twinHeld, component⟩ := same.exists_twin held
    rw [shares_iff_mem_fileNames oneNumbered oneExact held, ← component] at shares
    exact (shares_iff_mem_fileNames twoNumbered twoExact twinHeld right).mpr shares
  rw [Bool.eq_iff_iff]
  exact ⟨half otherNumbered otherExact numbered exact (alike left).symm,
    half numbered exact otherNumbered otherExact (alike left)⟩

/-- Registries that are alike on a set of files which nothing bound in it leaves. -/
structure AlikeWithin (inside : String → Prop) (registry other : Registry) : Prop where
  alike : ∀ name, inside name → registry.AlikeOn other name
  closed : ∀ name bound, inside name → registry.get? name = some bound →
    ∀ reference ∈ bound.component.references, inside reference

namespace AlikeWithin

variable {registry other : Registry} {inside : String → Prop} {roots : List String}

theorem symm (within : AlikeWithin inside registry other) :
    AlikeWithin inside other registry := by
  refine ⟨fun name isInside => (within.alike name isInside).symm, ?_⟩
  intro name bound isInside held reference member
  obtain ⟨twin, twinHeld, same⟩ := (within.alike name isInside).symm.exists_twin held
  rw [← same] at member
  exact within.closed name twin isInside twinHeld reference member

theorem leads (within : AlikeWithin inside registry other)
    (rootsInside : ∀ name ∈ roots, inside name) {bound : Instance}
    (leads : registry.Leads roots bound) :
    ∃ twin, other.Leads roots twin ∧ twin.component = bound.component := by
  -- Carried along the chain: the name under which an instance is met is in the set.
  have both : (∃ twin, other.Leads roots twin ∧ twin.component = bound.component) ∧
      ∃ name, inside name ∧ registry.get? name = some bound := by
    induction leads with
    | root member held =>
        have isInside := rootsInside _ member
        obtain ⟨twin, twinHeld, same⟩ := (within.alike _ isInside).exists_twin held
        exact ⟨⟨twin, .root member twinHeld, same⟩, _, isInside, held⟩
    | step _ member held ih =>
        obtain ⟨⟨earlier, led, sameEarlier⟩, earlierName, earlierInside, earlierHeld⟩ := ih
        have isInside := within.closed earlierName _ earlierInside earlierHeld _ member
        obtain ⟨twin, twinHeld, same⟩ := (within.alike _ isInside).exists_twin held
        rw [← sameEarlier] at member
        exact ⟨⟨twin, .step led member twinHeld, same⟩, _, isInside, held⟩
  exact both.1

theorem component_iff (within : AlikeWithin inside registry other)
    (rootsInside : ∀ name ∈ roots, inside name) {others : List String}
    (sameRoots : ∀ name, name ∈ roots ↔ name ∈ others) (component : Component) :
    (∃ bound, registry.Leads roots bound ∧ bound.component = component) ↔
      ∃ bound, other.Leads others bound ∧ bound.component = component := by
  constructor
  · rintro ⟨bound, led, rfl⟩
    obtain ⟨twin, twinLed, same⟩ := within.leads rootsInside led
    exact ⟨twin, twinLed.mono (fun name => (sameRoots name).mp), same⟩
  · rintro ⟨bound, led, rfl⟩
    exact within.symm.leads rootsInside (led.mono (fun name => (sameRoots name).mpr))

end AlikeWithin

end TexAtlas.Registry
