/-
The walk through a registry is exact: it finds the instances that references lead to from
the roots, and no others. Every instance that is found has its references queued, so at the
end, when the queue is empty, nothing that they lead to is missing.
-/

import TexAtlas.Proofs.Registry.Basic
import TexAtlas.Registry.Reachable

namespace TexAtlas.Registry

variable {registry : Registry} {roots : List String}

/-- The instances to which references lead from the roots, through bound names. -/
inductive Leads (registry : Registry) (roots : List String) : Instance → Prop where
  | root {name : String} {bound : Instance} :
      name ∈ roots → registry.get? name = some bound → Leads registry roots bound
  | step {earlier bound : Instance} {name : String} :
      Leads registry roots earlier → name ∈ earlier.component.references →
        registry.get? name = some bound → Leads registry roots bound

theorem Leads.exists_name {bound : Instance} (leads : registry.Leads roots bound) :
    ∃ name, registry.get? name = some bound := by
  cases leads with
  | root _ held => exact ⟨_, held⟩
  | step _ _ held => exact ⟨_, held⟩

/-- A set that holds the roots and everything that its members refer to holds all that is
led to. -/
theorem Leads.within {inside : Instance → Prop} {bound : Instance}
    (leads : registry.Leads roots bound)
    (hasRoots : ∀ name ∈ roots, ∀ found, registry.get? name = some found → inside found)
    (closed : ∀ earlier, inside earlier → ∀ name ∈ earlier.component.references,
      ∀ found, registry.get? name = some found → inside found) : inside bound := by
  induction leads with
  | root member held => exact hasRoots _ member _ held
  | step _ member held ih => exact closed _ ih _ member _ held

theorem Leads.mono {more : List String} {bound : Instance} (leads : registry.Leads roots bound)
    (wider : ∀ name ∈ roots, name ∈ more) : registry.Leads more bound :=
  leads.within (fun name member _ held => .root (wider name member) held)
    (fun _ inside _ member _ held => .step inside member held)

/-- Registries that agree on the roots, and on what is referred to from there, lead to the
same instances. -/
theorem Leads.transfer {other : Registry} {inside : String → Prop} {bound : Instance}
    (leads : registry.Leads roots bound) (rootsInside : ∀ name ∈ roots, inside name)
    (agree : ∀ name, inside name → other.get? name = registry.get? name)
    (closed : ∀ name found, inside name → registry.get? name = some found →
      ∀ reference ∈ found.component.references, inside reference) : other.Leads roots bound := by
  have both : other.Leads roots bound ∧ ∃ name, inside name ∧ registry.get? name = some bound := by
    induction leads with
    | root member held =>
        have within := rootsInside _ member
        exact ⟨.root member ((agree _ within).trans held), _, within, held⟩
    | step _ member held ih =>
        obtain ⟨led, earlierName, earlierInside, earlierHeld⟩ := ih
        have within := closed earlierName _ earlierInside earlierHeld _ member
        exact ⟨.step led member ((agree _ within).trans held), _, within, held⟩
  exact both.1

theorem leads_iff_of_agree {other : Registry} {inside : String → Prop}
    (rootsInside : ∀ name ∈ roots, inside name)
    (agree : ∀ name, inside name → other.get? name = registry.get? name)
    (closed : ∀ name found, inside name → registry.get? name = some found →
      ∀ reference ∈ found.component.references, inside reference) (bound : Instance) :
    other.Leads roots bound ↔ registry.Leads roots bound := by
  constructor
  · intro leads
    refine leads.transfer rootsInside (fun name within => (agree name within).symm) ?_
    intro name found within held
    rw [agree name within] at held
    exact closed name found within held
  · exact fun leads => leads.transfer rootsInside agree closed

/-! ### Everything found is led to -/

theorem follow_sound {steps : Nat} {waiting : List String} {reached : List Instance}
    (waitingLed : ∀ name ∈ waiting, ∀ bound, registry.get? name = some bound →
      registry.Leads roots bound)
    (reachedLed : ∀ bound ∈ reached, registry.Leads roots bound) :
    ∀ bound ∈ registry.follow steps waiting reached, registry.Leads roots bound := by
  induction steps generalizing waiting reached with
  | zero => exact reachedLed
  | succ steps ih =>
      cases waiting with
      | nil => exact reachedLed
      | cons name waiting =>
          have restLed : ∀ other ∈ waiting, ∀ bound, registry.get? other = some bound →
              registry.Leads roots bound := fun other member =>
            waitingLed other (List.mem_cons_of_mem name member)
          unfold follow
          split
          · exact ih restLed reachedLed
          · rename_i bound held
            have led := waitingLed name (List.mem_cons_self ..) bound held
            split
            · exact ih restLed reachedLed
            · refine ih ?_ ?_
              · intro other member found otherHeld
                rcases List.mem_append.mp member with old | new
                · exact restLed other old found otherHeld
                · exact .step led new otherHeld
              · intro found member
                rcases List.mem_append.mp member with old | new
                · exact reachedLed found old
                · rw [List.mem_singleton.mp new]
                  exact led

/-! ### Everything led to is found -/

/-- How many references an instance still brings: none once it was reached. -/
def referencesLeft (reached : List Instance) (bound : Instance) : Nat :=
  if reached.any (fun other => other.number == bound.number) then 0
  else bound.component.references.length

/-- How many references the instances not reached yet have. -/
def pendingReferences (values reached : List Instance) : Nat :=
  values.foldr (fun bound count => referencesLeft reached bound + count) 0

theorem pendingReferences_cons (head : Instance) (tail reached : List Instance) :
    pendingReferences (head :: tail) reached =
      referencesLeft reached head + pendingReferences tail reached := rfl

theorem referencesLeft_append_le (reached : List Instance) (new bound : Instance) :
    referencesLeft (reached ++ [new]) bound ≤ referencesLeft reached bound := by
  unfold referencesLeft
  rw [List.any_append]
  cases reached.any (fun other => other.number == bound.number) with
  | true => exact Nat.le_refl _
  | false =>
      rw [Bool.false_or]
      split
      · exact Nat.zero_le _
      · exact Nat.le_refl _

theorem pendingReferences_append_le (values reached : List Instance) (new : Instance) :
    pendingReferences values (reached ++ [new]) ≤ pendingReferences values reached := by
  induction values with
  | nil => exact Nat.le_refl _
  | cons head tail ih => exact Nat.add_le_add (referencesLeft_append_le reached new head) ih

theorem pendingReferences_append {values reached : List Instance} {bound : Instance}
    (member : bound ∈ values)
    (fresh : reached.any (fun other => other.number == bound.number) = false) :
    pendingReferences values (reached ++ [bound]) + bound.component.references.length ≤
      pendingReferences values reached := by
  induction values with
  | nil => cases member
  | cons head tail ih =>
      rw [pendingReferences_cons, pendingReferences_cons]
      rcases List.mem_cons.mp member with rfl | later
      · have before : referencesLeft reached bound = bound.component.references.length := by
          simp [referencesLeft, fresh]
        have after : referencesLeft (reached ++ [bound]) bound = 0 := by
          simp [referencesLeft]
        have rest := pendingReferences_append_le tail reached bound
        omega
      · have here := referencesLeft_append_le reached bound head
        have rest := ih later
        omega

/-- Every instance of a list is in the list to which a name leads, or the name waits. -/
def Covers (registry : Registry) (names waiting : List String) (reached : List Instance) : Prop :=
  ∀ name ∈ names, ∀ bound, registry.get? name = some bound → name ∈ waiting ∨ bound ∈ reached

theorem Covers.drop {names waiting more : List String} {name : String}
    {reached wider : List Instance} (covered : registry.Covers names (name :: waiting) reached)
    (moreWaiting : ∀ other ∈ waiting, other ∈ more)
    (moreReached : ∀ bound ∈ reached, bound ∈ wider)
    (done : ∀ bound, registry.get? name = some bound → bound ∈ wider) :
    registry.Covers names more wider := by
  intro other member bound held
  rcases covered other member bound held with inQueue | inReached
  · rcases List.mem_cons.mp inQueue with rfl | later
    · exact Or.inr (done bound held)
    · exact Or.inl (moreWaiting other later)
  · exact Or.inr (moreReached bound inReached)

theorem follow_complete (numbered : registry.Numbered) {steps : Nat} {waiting : List String}
    {reached : List Instance}
    (reachedBound : ∀ bound ∈ reached, ∃ name, registry.get? name = some bound)
    (enough : waiting.length + pendingReferences registry.bindings.values reached ≤ steps)
    (rootsCovered : registry.Covers roots waiting reached)
    (referencesCovered : ∀ bound ∈ reached,
      registry.Covers bound.component.references waiting reached) :
    registry.Covers roots [] (registry.follow steps waiting reached) ∧
      ∀ bound ∈ registry.follow steps waiting reached,
        registry.Covers bound.component.references [] (registry.follow steps waiting reached) := by
  induction steps generalizing waiting reached with
  | zero =>
      have nothing : waiting = [] := List.length_eq_zero_iff.mp (by omega)
      subst nothing
      exact ⟨rootsCovered, referencesCovered⟩
  | succ steps ih =>
      cases waiting with
      | nil => exact ⟨rootsCovered, referencesCovered⟩
      | cons name waiting =>
          rw [List.length_cons] at enough
          unfold follow
          split
          · rename_i missing
            have done : ∀ bound, registry.get? name = some bound → bound ∈ reached := by
              intro bound held
              rw [missing] at held
              cases held
            exact ih reachedBound (by omega)
              (rootsCovered.drop (fun _ member => member) (fun _ member => member) done)
              (fun bound member => (referencesCovered bound member).drop
                (fun _ inside => inside) (fun _ inside => inside) done)
          · rename_i found held
            split
            · rename_i met
              have done : ∀ bound, registry.get? name = some bound → bound ∈ reached := by
                intro bound again
                obtain ⟨other, member, sameNumber⟩ := List.any_eq_true.mp met
                obtain ⟨otherName, otherHeld⟩ := reachedBound other member
                rw [held] at again
                cases again
                rw [← numbered otherName name other found otherHeld held
                  (beq_iff_eq.mp sameNumber)]
                exact member
              exact ih reachedBound (by omega)
                (rootsCovered.drop (fun _ member => member) (fun _ member => member) done)
                (fun bound member => (referencesCovered bound member).drop
                  (fun _ inside => inside) (fun _ inside => inside) done)
            · rename_i fresh
              have done : ∀ bound, registry.get? name = some bound →
                  bound ∈ reached ++ [found] := by
                intro bound again
                rw [held] at again
                cases again
                exact List.mem_append_right reached (List.mem_singleton.mpr rfl)
              have less := pendingReferences_append (NameMap.mem_values_of_get? held)
                (Bool.not_eq_true _ ▸ fresh)
              refine ih ?_ ?_ ?_ ?_
              · intro bound member
                rcases List.mem_append.mp member with old | new
                · exact reachedBound bound old
                · rw [List.mem_singleton.mp new]
                  exact ⟨name, held⟩
              · rw [List.length_append]
                omega
              · exact rootsCovered.drop (fun _ member => List.mem_append_left _ member)
                  (fun _ member => List.mem_append_left _ member) done
              · intro bound member
                rcases List.mem_append.mp member with old | new
                · exact (referencesCovered bound old).drop
                    (fun _ inside => List.mem_append_left _ inside)
                    (fun _ inside => List.mem_append_left _ inside) done
                · rw [List.mem_singleton.mp new]
                  intro other inReferences _ _
                  exact Or.inl (List.mem_append_right waiting inReferences)

/-- Exactly the instances that are led to are found. -/
theorem mem_reachable_iff (numbered : registry.Numbered) (roots : List String)
    (bound : Instance) : bound ∈ registry.reachable roots ↔ registry.Leads roots bound := by
  constructor
  · exact follow_sound (fun _ member _ held => .root member held)
      (fun _ impossible => by cases impossible) bound
  · intro leads
    have everyReference : pendingReferences registry.bindings.values [] =
        registry.referenceCount := rfl
    have noneReached : ∀ found ∈ ([] : List Instance), ∃ name, registry.get? name = some found :=
      fun _ impossible => absurd impossible List.not_mem_nil
    have noneCovered : ∀ found ∈ ([] : List Instance),
        registry.Covers found.component.references roots [] :=
      fun _ impossible => absurd impossible List.not_mem_nil
    obtain ⟨rootsCovered, referencesCovered⟩ := follow_complete numbered noneReached
      (Nat.le_of_eq (by rw [everyReference])) (fun name member _ _ => Or.inl member) noneCovered
    refine leads.within ?_ ?_
    · intro name member found held
      exact (rootsCovered name member found held).resolve_left (List.not_mem_nil)
    · intro earlier inside name member found held
      exact (referencesCovered earlier inside name member found held).resolve_left
        (List.not_mem_nil)

end TexAtlas.Registry
