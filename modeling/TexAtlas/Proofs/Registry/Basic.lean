/-
What the operations of the registry change: a binding changes the answer for one name, an
advance changes the state of one file, and neither touches anything else.
-/

import TexAtlas.Proofs.Names
import TexAtlas.Registry.Basic

namespace TexAtlas

namespace FileState

theorem isTerminal_iff (state : FileState) :
    state.isTerminal = true ↔ state = .registered ∨ state = .skipped := by
  cases state <;> simp [isTerminal]

theorem move_move (state next : FileState) : (state.move next).move next = state.move next := by
  cases state <;> cases next <;> rfl

end FileState

namespace Registry

variable (registry : Registry)

theorem contains_iff (name : String) :
    registry.contains name = true ↔ ∃ bound, registry.get? name = some bound := by
  rw [contains, Option.isSome_iff_exists]

theorem contains_eq_false_iff (name : String) :
    registry.contains name = false ↔ registry.get? name = none := by
  rw [contains, Option.isSome_eq_false_iff, Option.isNone_iff_eq_none]

theorem isSettled_iff (name : String) :
    registry.isSettled name = true ↔
      registry.state name = .registered ∨ registry.state name = .skipped :=
  FileState.isTerminal_iff _

theorem isSkipped_iff (name : String) :
    registry.isSkipped name = true ↔ registry.state name = .skipped :=
  beq_iff_eq

/-- A file that is bound to nothing and has no final state. -/
def IsOpen (name : String) : Prop :=
  registry.get? name = none ∧ registry.isSettled name = false

/-! ### Bindings -/

@[simp] theorem get?_empty (name : String) : empty.get? name = none := rfl

@[simp] theorem state_empty (name : String) : empty.state name = .unresolved := rfl

theorem get?_bind (name other : String) (bound : Instance) :
    (registry.bind name bound).get? other =
      if name = other then some bound else registry.get? other :=
  NameMap.get?_insert registry.bindings name other bound

@[simp] theorem state_bind (name other : String) (bound : Instance) :
    (registry.bind name bound).state other = registry.state other := rfl

@[simp] theorem next_bind (name : String) (bound : Instance) :
    (registry.bind name bound).next = registry.next := rfl

@[simp] theorem get?_allocate (component : Component) (name : String) :
    (registry.allocate component).2.get? name = registry.get? name := rfl

@[simp] theorem state_allocate (component : Component) (name : String) :
    (registry.allocate component).2.state name = registry.state name := rfl

@[simp] theorem next_allocate (component : Component) :
    (registry.allocate component).2.next = registry.next + 1 := rfl

private theorem get?_foldl_bind (names : List String) (bound : Instance) (other : String) :
    (names.foldl (fun registry name => registry.bind name bound) registry).get? other =
      if other ∈ names then some bound else registry.get? other := by
  induction names generalizing registry with
  | nil => rfl
  | cons name rest ih =>
      rw [List.foldl_cons, ih, get?_bind]
      by_cases later : other ∈ rest
      · simp [later]
      · by_cases same : name = other
        · simp [same]
        · have different : ¬other = name := fun equal => same equal.symm
          simp [later, same, different]

theorem get?_replace (bound : Instance) (other : String) :
    (registry.replace bound).get? other =
      if other ∈ bound.component.fileNames then some bound else registry.get? other :=
  get?_foldl_bind registry bound.component.fileNames bound other

private theorem state_next_foldl_bind (names : List String) (bound : Instance) (other : String) :
    (names.foldl (fun registry name => registry.bind name bound) registry).state other =
        registry.state other ∧
      (names.foldl (fun registry name => registry.bind name bound) registry).next =
        registry.next := by
  induction names generalizing registry with
  | nil => exact ⟨rfl, rfl⟩
  | cons name rest ih => exact ih (registry.bind name bound)

@[simp] theorem state_replace (bound : Instance) (other : String) :
    (registry.replace bound).state other = registry.state other :=
  (state_next_foldl_bind registry bound.component.fileNames bound other).1

@[simp] theorem next_replace (bound : Instance) :
    (registry.replace bound).next = registry.next :=
  (state_next_foldl_bind registry bound.component.fileNames bound "").2

/-! ### States -/

@[simp] theorem get?_advance (name other : String) (next : FileState) :
    (registry.advance name next).get? other = registry.get? other := rfl

@[simp] theorem next_advance (name : String) (next : FileState) :
    (registry.advance name next).next = registry.next := rfl

theorem state_advance (name other : String) (next : FileState) :
    (registry.advance name next).state other =
      if name = other then (registry.state name).move next else registry.state other := by
  unfold advance state
  rw [NameMap.get?_insert]
  by_cases same : name = other
  · rw [if_pos same, if_pos same]
    cases registry.states.get? name with
    | none => cases next <;> rfl
    | some known => rfl
  · rw [if_neg same, if_neg same]

@[simp] theorem get?_advanceAll (names : List String) (next : FileState) (other : String) :
    (registry.advanceAll names next).get? other = registry.get? other := by
  unfold advanceAll
  induction names generalizing registry with
  | nil => rfl
  | cons name rest ih =>
      rw [List.foldl_cons, ih]
      rfl

@[simp] theorem next_advanceAll (names : List String) (next : FileState) :
    (registry.advanceAll names next).next = registry.next := by
  unfold advanceAll
  induction names generalizing registry with
  | nil => rfl
  | cons name rest ih =>
      rw [List.foldl_cons, ih]
      rfl

theorem state_advanceAll (names : List String) (next : FileState) (other : String) :
    (registry.advanceAll names next).state other =
      if other ∈ names then (registry.state other).move next else registry.state other := by
  unfold advanceAll
  induction names generalizing registry with
  | nil => rfl
  | cons name rest ih =>
      rw [List.foldl_cons, ih, state_advance registry name other next]
      by_cases same : name = other
      · subst same
        by_cases later : name ∈ rest
        · simp [later, FileState.move_move]
        · simp [later]
      · have different : ¬other = name := fun equal => same equal.symm
        simp [same, different]

@[simp] theorem get?_skip (names : List String) (other : String) :
    (registry.skip names).get? other = registry.get? other :=
  get?_advanceAll registry names .skipped other

theorem state_skip (names : List String) (other : String) :
    (registry.skip names).state other =
      if other ∈ names then (registry.state other).move .skipped else registry.state other :=
  state_advanceAll registry names .skipped other

/-! ### Instances -/

/-- Two bound instances with one number are the same instance. -/
def Numbered : Prop :=
  ∀ left right first second, registry.get? left = some first →
    registry.get? right = some second → first.number = second.number → first = second

/-- An instance is bound under its file names and no others. -/
def BoundExactly : Prop :=
  ∀ name bound, registry.get? name = some bound →
    ∀ other, registry.get? other = some bound ↔ other ∈ bound.component.fileNames

theorem boundExactly_empty : empty.BoundExactly := by
  intro name bound held
  cases held

theorem get?_register (bound : Instance) (other : String) :
    (registry.register bound).get? other =
      if other ∈ bound.component.fileNames then some bound else registry.get? other :=
  (get?_advanceAll _ _ _ other).trans (get?_replace registry bound other)

/-- Files that are not bound yet can be registered. -/
theorem BoundExactly.register {registry : Registry} (exact : registry.BoundExactly)
    {bound : Instance}
    (unbound : ∀ name ∈ bound.component.fileNames, registry.get? name = none) :
    (registry.register bound).BoundExactly := by
  intro name other held another
  rw [get?_register] at held ⊢
  split at held
  · cases held
    split
    · simp [*]
    · rename_i outside
      refine ⟨fun anotherHeld => ?_, fun inside => absurd inside outside⟩
      exact (exact another bound anotherHeld another).mp anotherHeld
  · have different : bound ≠ other := by
      rintro rfl
      rename_i outside
      exact outside ((exact name bound held name).mp held)
    split
    · rename_i inside
      constructor
      · intro same
        exact absurd (Option.some.inj same) different
      · intro listed
        have anotherHeld := (exact name other held another).mpr listed
        rw [unbound another inside] at anotherHeld
        cases anotherHeld
    · exact exact name other held another

theorem shares_iff (left right : String) :
    registry.shares left right = true ↔
      ∃ first second, registry.get? left = some first ∧ registry.get? right = some second ∧
        first.number = second.number := by
  unfold shares
  cases registry.get? left <;> cases registry.get? right <;> simp

theorem shares_iff_mem_fileNames {registry : Registry} (numbered : registry.Numbered)
    (exact : registry.BoundExactly) {name : String} {bound : Instance}
    (held : registry.get? name = some bound) (other : String) :
    registry.shares name other = true ↔ other ∈ bound.component.fileNames := by
  rw [← exact name bound held, shares_iff]
  constructor
  · rintro ⟨first, second, firstHeld, secondHeld, sameNumber⟩
    rw [held] at firstHeld
    cases firstHeld
    rw [secondHeld, numbered name other bound second held secondHeld sameNumber]
  · intro otherHeld
    exact ⟨bound, bound, held, otherHeld, rfl⟩

end Registry

end TexAtlas
