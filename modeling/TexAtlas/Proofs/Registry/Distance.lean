/-
The order in which the walk through a registry finds the instances. The names that wait are
at most two references apart: first those at the distance now worked on, then those one
reference further. So no instance is found before one that is nearer to the roots. The walk
is described here without a bound on its steps, and the bounded one is shown to come to the
same end.
-/

import Mathlib.Data.List.Forall2
import Mathlib.Order.Bounds.Basic
import TexAtlas.Proofs.Registry.Reachable

namespace TexAtlas.Registry

variable {registry : Registry} {roots : List String}

/-! ### The walk without a bound -/

/-- Working off a queue of names until it is empty, from what is reached at the beginning to
what is reached at the end. -/
inductive Drains (registry : Registry) : List String → List Instance → List Instance → Prop where
  | done (reached : List Instance) : Drains registry [] reached reached
  | unbound {name : String} {waiting : List String} {reached all : List Instance} :
      registry.get? name = none → Drains registry waiting reached all →
        Drains registry (name :: waiting) reached all
  | met {name : String} {waiting : List String} {reached all : List Instance}
      {bound : Instance} : registry.get? name = some bound →
      reached.any (fun other => other.number == bound.number) = true →
      Drains registry waiting reached all → Drains registry (name :: waiting) reached all
  | new {name : String} {waiting : List String} {reached all : List Instance}
      {bound : Instance} : registry.get? name = some bound →
      reached.any (fun other => other.number == bound.number) = false →
      Drains registry (waiting ++ bound.component.references) (reached ++ [bound]) all →
        Drains registry (name :: waiting) reached all

theorem Drains.unique {waiting : List String} {reached first second : List Instance}
    (left : registry.Drains waiting reached first)
    (right : registry.Drains waiting reached second) : first = second := by
  induction left generalizing second with
  | done reached =>
      cases right
      rfl
  | unbound missing _ ih =>
      cases right with
      | unbound _ drains => exact ih drains
      | met held _ _ | new held _ _ =>
          rw [missing] at held
          cases held
  | met held met _ ih =>
      cases right with
      | unbound missing _ =>
          rw [held] at missing
          cases missing
      | met _ _ drains => exact ih drains
      | new again fresh _ =>
          rw [held] at again
          cases again
          rw [met] at fresh
          cases fresh
  | new held fresh _ ih =>
      cases right with
      | unbound missing _ =>
          rw [held] at missing
          cases missing
      | met again met _ =>
          rw [held] at again
          cases again
          rw [met] at fresh
          cases fresh
      | new again _ drains =>
          rw [held] at again
          cases again
          exact ih drains

/-- With as many steps as names can ever wait, the bounded walk empties its queue. -/
theorem drains_follow {steps : Nat} {waiting : List String} {reached : List Instance}
    (enough : waiting.length + pendingReferences registry.bindings.values reached ≤ steps) :
    registry.Drains waiting reached (registry.follow steps waiting reached) := by
  induction steps generalizing waiting reached with
  | zero =>
      obtain rfl : waiting = [] := List.length_eq_zero_iff.mp (by omega)
      exact .done reached
  | succ steps ih =>
      cases waiting with
      | nil => exact .done reached
      | cons name waiting =>
          rw [List.length_cons] at enough
          unfold follow
          split
          · rename_i missing
            exact .unbound missing (ih (by omega))
          · rename_i bound held
            split
            · rename_i met
              exact .met held met (ih (by omega))
            · rename_i fresh
              rw [Bool.not_eq_true] at fresh
              have less := pendingReferences_append (NameMap.mem_values_of_get? held) fresh
              apply Drains.new held fresh (ih _)
              rw [List.length_append]
              omega

theorem drains_reachable (registry : Registry) (roots : List String) :
    registry.Drains roots [] (registry.reachable roots) :=
  drains_follow (Nat.le_refl _)

theorem Drains.numbers_nodup {waiting : List String} {reached all : List Instance}
    (drains : registry.Drains waiting reached all)
    (distinct : (reached.map Instance.number).Nodup) : (all.map Instance.number).Nodup := by
  induction drains with
  | done reached => exact distinct
  | unbound _ _ ih => exact ih distinct
  | met _ _ _ ih => exact ih distinct
  | new _ fresh _ ih =>
      apply ih
      rw [List.map_append, List.nodup_append]
      refine ⟨distinct, List.nodup_singleton _, ?_⟩
      rintro number old _ new rfl
      obtain ⟨other, member, numberIs⟩ := List.mem_map.mp old
      rw [List.map_singleton, List.mem_singleton] at new
      have met := List.any_eq_false.mp fresh other member
      exact met (beq_iff_eq.mpr (numberIs.trans new))

/-! ### Distances -/

/-- An instance is reached from the roots over a number of references. -/
inductive Hops (registry : Registry) (roots : List String) : Nat → Instance → Prop where
  | root {name : String} {bound : Instance} :
      name ∈ roots → registry.get? name = some bound → Hops registry roots 0 bound
  | step {hops : Nat} {earlier bound : Instance} {name : String} :
      Hops registry roots hops earlier → name ∈ earlier.component.references →
        registry.get? name = some bound → Hops registry roots (hops + 1) bound

theorem Hops.exists_name {hops : Nat} {bound : Instance}
    (reached : registry.Hops roots hops bound) : ∃ name, registry.get? name = some bound := by
  cases reached with
  | root _ held | step _ _ held => exact ⟨_, held⟩

/-- The least number of references over which an instance is reached. -/
def IsDistance (registry : Registry) (roots : List String) (bound : Instance)
    (distance : Nat) : Prop :=
  IsLeast { hops | registry.Hops roots hops bound } distance

theorem hops_of_forall₂ {reached : List Instance} {distances : List Nat}
    (exact : List.Forall₂ (registry.IsDistance roots) reached distances) {bound : Instance}
    (member : bound ∈ reached) : ∃ hops, registry.Hops roots hops bound := by
  induction exact with
  | nil => cases member
  | cons isDistance _ ih =>
      rcases List.mem_cons.mp member with rfl | later
      · exact ⟨_, isDistance.1⟩
      · exact ih later

/-- A walk that is working on the names at one distance: what is nearer is reached, what is
at this distance is reached or waits in front, and behind it waits only what is one
reference further. -/
structure Nearing (registry : Registry) (roots : List String) (depth : Nat)
    (near far : List String) (reached : List Instance) (distances : List Nat) : Prop where
  exact : List.Forall₂ (registry.IsDistance roots) reached distances
  ascending : distances.Pairwise (· ≤ ·)
  atMost : ∀ distance ∈ distances, distance ≤ depth
  nearLed : ∀ name ∈ near, ∀ bound, registry.get? name = some bound →
    registry.Hops roots depth bound
  farLed : ∀ name ∈ far, ∀ bound, registry.get? name = some bound →
    registry.Hops roots (depth + 1) bound
  closer : ∀ hops bound, registry.Hops roots hops bound → hops < depth → bound ∈ reached
  level : ∀ bound, registry.Hops roots depth bound →
    bound ∈ reached ∨ ∃ name ∈ near, registry.get? name = some bound
  covered : ∀ bound ∈ reached, registry.Covers bound.component.references (near ++ far) reached

namespace Nearing

variable {depth : Nat} {near far waiting : List String} {reached : List Instance}
  {distances : List Nat} {name : String}

theorem start (registry : Registry) (roots : List String) :
    registry.Nearing roots 0 roots [] [] [] := by
  refine ⟨.nil, .nil, ?_, ?_, ?_, ?_, ?_, ?_⟩
  · intro distance member
    cases member
  · intro name member bound held
    exact .root member held
  · intro name member
    cases member
  · intro hops bound _ less
    omega
  · intro bound reached
    cases reached with
    | root member held => exact Or.inr ⟨_, member, held⟩
  · intro bound member
    cases member

/-- Once nothing waits in front, the distance worked on goes up by one. -/
theorem turn (nearing : registry.Nearing roots depth [] far reached distances) :
    registry.Nearing roots (depth + 1) far [] reached distances := by
  have here : ∀ bound, registry.Hops roots depth bound → bound ∈ reached := by
    intro bound hops
    rcases nearing.level bound hops with inside | ⟨_, impossible, _⟩
    · exact inside
    · cases impossible
  refine ⟨nearing.exact, nearing.ascending, ?_, nearing.farLed, ?_, ?_, ?_, ?_⟩
  · intro distance member
    exact Nat.le_succ_of_le (nearing.atMost distance member)
  · intro name impossible
    cases impossible
  · intro hops bound reaches less
    rcases Nat.lt_or_eq_of_le (Nat.le_of_lt_succ less) with closer | same
    · exact nearing.closer hops bound reaches closer
    · exact here bound (same ▸ reaches)
  · intro bound reaches
    cases reaches with
    | step earlier member held =>
        rcases nearing.covered _ (here _ earlier) _ member bound held with waits | inside
        · exact Or.inr ⟨_, waits, held⟩
        · exact Or.inl inside
  · intro bound member
    rw [List.append_nil]
    exact nearing.covered bound member

/-- The first name of the queue is at the distance worked on, now or after a turn. -/
theorem front (nearing : registry.Nearing roots depth near far reached distances)
    (queue : name :: waiting = near ++ far) :
    ∃ depth near far, waiting = near ++ far ∧
      registry.Nearing roots depth (name :: near) far reached distances := by
  cases near with
  | nil =>
      rw [List.nil_append] at queue
      subst queue
      exact ⟨depth + 1, waiting, [], (List.append_nil waiting).symm, nearing.turn⟩
  | cons head near =>
      cases queue
      exact ⟨depth, near, far, rfl, nearing⟩

/-- A name that brings nothing new leaves the queue. -/
theorem skip (nearing : registry.Nearing roots depth (name :: near) far reached distances)
    (done : ∀ bound, registry.get? name = some bound → bound ∈ reached) :
    registry.Nearing roots depth near far reached distances := by
  refine { nearing with nearLed := ?_, level := ?_, covered := ?_ }
  · intro other member
    exact nearing.nearLed other (List.mem_cons_of_mem name member)
  · intro bound reaches
    rcases nearing.level bound reaches with inside | ⟨other, member, held⟩
    · exact Or.inl inside
    · rcases List.mem_cons.mp member with rfl | later
      · exact Or.inl (done bound held)
      · exact Or.inr ⟨other, later, held⟩
  · intro bound member
    exact (nearing.covered bound member).drop (fun _ waits => waits) (fun _ inside => inside) done

/-- A name of a new instance: the instance is reached, and its references wait behind. -/
theorem find (nearing : registry.Nearing roots depth (name :: near) far reached distances)
    {bound : Instance} (held : registry.get? name = some bound)
    (fresh : reached.any (fun other => other.number == bound.number) = false) :
    registry.Nearing roots depth near (far ++ bound.component.references) (reached ++ [bound])
      (distances ++ [depth]) := by
  have reaches := nearing.nearLed name (List.mem_cons_self ..) bound held
  have isDistance : registry.IsDistance roots bound depth := by
    refine ⟨reaches, ?_⟩
    intro hops other
    by_contra less
    have inside := nearing.closer hops bound other (Nat.lt_of_not_le less)
    exact List.any_eq_false.mp fresh bound inside (beq_self_eq_true bound.number)
  have done : ∀ other, registry.get? name = some other → other ∈ reached ++ [bound] := by
    intro other again
    rw [held] at again
    cases again
    exact List.mem_append_right reached (List.mem_singleton.mpr rfl)
  refine ⟨?_, ?_, ?_, ?_, ?_, ?_, ?_, ?_⟩
  · exact List.rel_append nearing.exact (.cons isDistance .nil)
  · rw [List.pairwise_append]
    refine ⟨nearing.ascending, List.pairwise_singleton _ _, ?_⟩
    intro distance member last isLast
    rw [List.mem_singleton.mp isLast]
    exact nearing.atMost distance member
  · intro distance member
    rcases List.mem_append.mp member with old | new
    · exact nearing.atMost distance old
    · exact Nat.le_of_eq (List.mem_singleton.mp new)
  · intro other member
    exact nearing.nearLed other (List.mem_cons_of_mem name member)
  · intro other member found otherHeld
    rcases List.mem_append.mp member with old | new
    · exact nearing.farLed other old found otherHeld
    · exact .step reaches new otherHeld
  · intro hops other otherReaches less
    exact List.mem_append_left _ (nearing.closer hops other otherReaches less)
  · intro other otherReaches
    rcases nearing.level other otherReaches with inside | ⟨otherName, member, otherHeld⟩
    · exact Or.inl (List.mem_append_left _ inside)
    · rcases List.mem_cons.mp member with rfl | later
      · exact Or.inl (done other otherHeld)
      · exact Or.inr ⟨otherName, later, otherHeld⟩
  · intro other member
    rcases List.mem_append.mp member with old | new
    · refine (nearing.covered other old).drop ?_ (fun _ => List.mem_append_left _) done
      intro waits inQueue
      rw [← List.append_assoc]
      exact List.mem_append_left _ inQueue
    · rw [List.mem_singleton.mp new]
      intro reference isReference _ _
      exact Or.inl (List.mem_append_right near (List.mem_append_right far isReference))

end Nearing

/-- A walk that empties its queue has found the instances by ascending distance. -/
theorem Drains.nearing (numbered : registry.Numbered) {waiting : List String}
    {reached all : List Instance} (drains : registry.Drains waiting reached all) {depth : Nat}
    {near far : List String} {distances : List Nat} (queue : waiting = near ++ far)
    (nearing : registry.Nearing roots depth near far reached distances) :
    ∃ distances, List.Forall₂ (registry.IsDistance roots) all distances ∧
      distances.Pairwise (· ≤ ·) := by
  induction drains generalizing depth near far distances with
  | done reached => exact ⟨distances, nearing.exact, nearing.ascending⟩
  | unbound missing _ ih =>
      obtain ⟨depth, near, far, rest, nearing⟩ := nearing.front queue
      apply ih rest (nearing.skip _)
      intro bound held
      rw [missing] at held
      cases held
  | met held met _ ih =>
      obtain ⟨depth, near, far, rest, nearing⟩ := nearing.front queue
      apply ih rest (nearing.skip _)
      intro bound again
      rw [held] at again
      cases again
      obtain ⟨other, member, sameNumber⟩ := List.any_eq_true.mp met
      obtain ⟨hops, reaches⟩ := hops_of_forall₂ nearing.exact member
      obtain ⟨otherName, otherHeld⟩ := reaches.exists_name
      rw [← numbered otherName _ other _ otherHeld held (beq_iff_eq.mp sameNumber)]
      exact member
  | new held fresh _ ih =>
      obtain ⟨depth, near, far, rest, nearing⟩ := nearing.front queue
      apply ih _ (nearing.find held fresh)
      rw [rest, List.append_assoc]

/-! ### Registries that were bound step by step -/

/-- To bind a shared component under its file names, or to rebind them. Shared components
are told apart by their numbers. -/
inductive Binding where
  | register (number : Nat)
  | replace (number : Nat)

/-- Bind a component, given what each number stands for. -/
def Binding.apply (contents : Nat → Component) (registry : Registry) : Binding → Registry
  | register number => registry.register ⟨number, contents number⟩
  | replace number => registry.replace ⟨number, contents number⟩

/-- The registry that bindings have made. -/
def ofBindings (contents : Nat → Component) (bindings : List Binding) : Registry :=
  bindings.foldl (Binding.apply contents) empty

theorem Binding.component_of_held {contents : Nat → Component}
    (known : ∀ name bound, registry.get? name = some bound →
      bound.component = contents bound.number) (binding : Binding) {name : String}
    {bound : Instance} (held : (binding.apply contents registry).get? name = some bound) :
    bound.component = contents bound.number := by
  have replaced : ∀ number, (registry.replace ⟨number, contents number⟩).get? name = some bound →
      bound.component = contents bound.number := by
    intro number found
    rw [get?_replace] at found
    split at found
    · cases found
      rfl
    · exact known name bound found
  cases binding with
  | register number =>
      apply replaced number
      rwa [apply, Registry.register, get?_advanceAll] at held
  | replace number => exact replaced number held

theorem numbered_ofBindings (contents : Nat → Component) (bindings : List Binding) :
    (ofBindings contents bindings).Numbered := by
  have known : ∀ registry : Registry, (∀ name bound, registry.get? name = some bound →
      bound.component = contents bound.number) → ∀ name bound,
        (bindings.foldl (Binding.apply contents) registry).get? name = some bound →
          bound.component = contents bound.number := by
    induction bindings with
    | nil => exact fun _ known => known
    | cons binding rest ih =>
        intro registry known
        exact ih _ (fun name bound held => binding.component_of_held known held)
  have every := known empty (fun name bound held => by cases held)
  rintro left right ⟨number, component⟩ ⟨other, otherComponent⟩ leftHeld rightHeld sameNumber
  have first := every left _ leftHeld
  have second := every right _ rightHeld
  simp only at first second sameNumber
  rw [first, second, sameNumber]

/-- However a registry was bound together, the walk from any roots ends, in one way only. It
finds every instance once, finds those that references lead to from the roots and no others,
and none before one that is fewer references away. -/
theorem reachable_nearest_first (contents : Nat → Component) (bindings : List Binding)
    (roots : List String) :
    let registry := ofBindings contents bindings
    (∀ all, registry.Drains roots [] all ↔ all = registry.reachable roots) ∧
    ((registry.reachable roots).map Instance.number).Nodup ∧
    (∀ bound, bound ∈ registry.reachable roots ↔ registry.Leads roots bound) ∧
    ∃ distances, List.Forall₂ (registry.IsDistance roots) (registry.reachable roots) distances ∧
      distances.Pairwise (· ≤ ·) := by
  intro registry
  have numbered : registry.Numbered := numbered_ofBindings contents bindings
  have drains := drains_reachable registry roots
  refine ⟨?_, drains.numbers_nodup List.nodup_nil, mem_reachable_iff numbered roots,
    drains.nearing numbered (List.append_nil roots).symm (Nearing.start registry roots)⟩
  intro all
  constructor
  · intro other
    exact other.unique drains
  · rintro rfl
    exact drains

end TexAtlas.Registry
