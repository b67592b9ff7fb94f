/-
Components are the strongly connected parts of the whole reference graph. A clustering only
ever sees the open files, but no reference leads from a settled file back to an open one, so
a cycle is never split between two operations, nor between a component and skipped files.
-/

import TexAtlas.Proofs.Session.Runs

namespace TexAtlas

/-- Files are bound and skipped by the groups of the reference graph. -/
structure ComponentsAreGroups (session : Session) : Prop where
  /-- Files that reach each other share their fate and their component. -/
  together : ∀ left right, left ≠ right → session.registry.isSettled left = true →
    session.registry.isSettled right = true → Memo.Together session.memo left right →
      session.registry.state left = session.registry.state right ∧
        (session.registry.state left = .registered →
          ∃ bound, session.registry.get? left = some bound ∧
            session.registry.get? right = some bound)
  /-- Files that do not are never bound to one instance. -/
  apart : ∀ left right, left ≠ right → session.registry.isSettled left = true →
    session.registry.isSettled right = true → ¬Memo.Together session.memo left right →
      session.registry.shares left right = false
  /-- An instance is bound under all of its file names and no others. -/
  exact : ∀ name bound, session.registry.get? name = some bound → ∀ other,
    (session.registry.get? other = some bound ↔ other ∈ bound.component.fileNames) ∧
      (session.registry.shares name other = true ↔ other ∈ bound.component.fileNames)
  /-- Distinct instances have no file name in common. -/
  disjoint : ∀ left right first second, session.registry.get? left = some first →
    session.registry.get? right = some second → first.number ≠ second.number →
      ∀ name ∈ first.component.fileNames, name ∉ second.component.fileNames

namespace Coherent

variable {memo : Memo} {registry : Registry} {pending : List String}

theorem shares_iff_mem_fileNames (coherent : Coherent memo registry pending) {name : String}
    {bound : Instance} (held : registry.get? name = some bound) (other : String) :
    registry.shares name other = true ↔ other ∈ bound.component.fileNames :=
  Registry.shares_iff_mem_fileNames coherent.numbered coherent.boundExactly held other

theorem together_of_shares (coherent : Coherent memo registry pending) {left right : String}
    (shares : registry.shares left right = true) : memo.Together left right := by
  obtain ⟨first, _, firstHeld, _, _⟩ := (registry.shares_iff left right).mp shares
  have inNames := (coherent.shares_iff_mem_fileNames firstHeld right).mp shares
  obtain ⟨_, members, group, inside, holds⟩ := coherent.holds_of_bound firstHeld
  rw [holds.fileNames] at inNames
  exact (group.exact_name inside right).mp inNames

theorem settles_together (coherent : Coherent memo registry pending) {left right : String}
    (settled : registry.isSettled left = true) (both : memo.Together left right) :
    registry.state left = registry.state right ∧
      (registry.state left = .registered →
        ∃ bound, registry.get? left = some bound ∧ registry.get? right = some bound) := by
  obtain ⟨members, group, leftInside, settles⟩ := coherent.grouped left settled
  have rightInside := (group.exact_name leftInside right).mpr both
  rcases settles with ⟨bound, holds⟩ | drops
  · obtain ⟨leftHeld, leftState⟩ := holds.held left leftInside
    obtain ⟨rightHeld, rightState⟩ := holds.held right rightInside
    exact ⟨leftState.trans rightState.symm, fun _ => ⟨bound, leftHeld, rightHeld⟩⟩
  · have leftState := (drops left leftInside).2
    refine ⟨leftState.trans (drops right rightInside).2.symm, ?_⟩
    intro registered
    rw [leftState] at registered
    cases registered

end Coherent

theorem Orderly.componentsAreGroups {settings : Settings} {admitted : File → Prop}
    {session : Session} (orderly : Orderly settings admitted session) :
    ComponentsAreGroups session := by
  have coherent := orderly.coherent
  refine ⟨?_, ?_, ?_, ?_⟩
  · intro left right _ settled _ both
    exact coherent.settles_together settled both
  · intro left right _ _ _ notTogether
    rw [Bool.eq_false_iff]
    exact fun shares => notTogether (coherent.together_of_shares shares)
  · intro name bound held other
    exact ⟨coherent.boundExactly name bound held other,
      coherent.shares_iff_mem_fileNames held other⟩
  · intro left right first second leftHeld rightHeld different name inFirst inSecond
    have firstAt := (coherent.boundExactly left first leftHeld name).mpr inFirst
    have secondAt := (coherent.boundExactly right second rightHeld name).mpr inSecond
    rw [firstAt] at secondAt
    cases secondAt
    exact different rfl

/-- After any run from nothing, whatever files it is called on, components are the strongly
connected parts of the graph of references. -/
theorem run_componentsAreGroups {settings : Settings} {operations : List Operation}
    {session : Session} (ran : Session.initial.run settings operations = some session) :
    ComponentsAreGroups session :=
  (reachable_run ran).orderly.componentsAreGroups

/-- The knot is one component, and the package below it another. -/
theorem sample_componentsAreGroups :
    ∃ session, Session.initial.run Settings.sample Operation.sample = some session ∧
      session.registry.shares "a.sty" "b.sty" = true ∧
      session.registry.shares "a.sty" "c.sty" = false ∧
      session.registry.components = [.knot, .host, .below] ∧ ComponentsAreGroups session := by
  obtain ⟨session, ran, components, _, _, _, _, together, apart, _⟩ := run_sample
  exact ⟨session, ran, together, apart, components, run_componentsAreGroups ran⟩

end TexAtlas
