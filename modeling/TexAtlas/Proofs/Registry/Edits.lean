/-
Registries under edit. Whatever is done to a registry, a bound name is a file of the instance
that it is bound to, and the last of several instances with the same files has taken all of
their names. So no two bound instances have the same files, also where instances took some names
from each other, and what is listed does not depend on the order in which the bindings are met.
-/

import TexAtlas.Proofs.Override
import TexAtlas.Proofs.Registry.Export

namespace TexAtlas

namespace Registry

variable {registry other : Registry}

/-! ### What the files of instances say about bindings -/

/-- Names are bound to instances with that file, one instance for each list of files. -/
structure Filed (registry : Registry) : Prop where
  file : ∀ name bound, registry.get? name = some bound → name ∈ bound.component.fileNames
  apart : registry.ApartByFiles

theorem filed_empty : empty.Filed := by
  constructor
  · intro name bound held
    cases held
  · intro left right first second held
    cases held

theorem Filed.congr (filed : registry.Filed)
    (same : ∀ name, other.get? name = registry.get? name) : other.Filed := by
  constructor
  · intro name bound held
    rw [same] at held
    exact filed.file name bound held
  · intro left right first second leftHeld rightHeld
    rw [same] at leftHeld rightHeld
    exact filed.apart left right first second leftHeld rightHeld

/-- An instance that stays bound beside a newly bound one has a file that is not of the new
one, so their files differ. -/
theorem Filed.replace (filed : registry.Filed) (bound : Instance) :
    (registry.replace bound).Filed := by
  have isOld : ∀ name, name ∉ bound.component.fileNames → ∀ old,
      registry.get? name = some old → old.component.fileNames ≠ bound.component.fileNames := by
    intro name outside old held sameFiles
    have inside := filed.file name old held
    rw [sameFiles] at inside
    exact outside inside
  constructor
  · intro name found held
    rw [get?_replace] at held
    split at held
    · rename_i inside
      cases held
      exact inside
    · exact filed.file name found held
  · intro left right first second leftHeld rightHeld sameFiles
    rw [get?_replace] at leftHeld rightHeld
    split at leftHeld
    · cases leftHeld
      split at rightHeld
      · exact Option.some.inj rightHeld
      · rename_i outside
        exact absurd sameFiles.symm (isOld right outside second rightHeld)
    · rename_i outside
      split at rightHeld
      · cases rightHeld
        exact absurd sameFiles (isOld left outside first leftHeld)
      · exact filed.apart left right first second leftHeld rightHeld sameFiles

theorem Filed.advanceAll (filed : registry.Filed) (names : List String) (next : FileState) :
    (registry.advanceAll names next).Filed :=
  filed.congr (get?_advanceAll registry names next)

theorem Filed.register (filed : registry.Filed) (bound : Instance) :
    (registry.register bound).Filed :=
  (filed.replace bound).advanceAll bound.component.fileNames .registered

theorem Filed.applyEntry (filed : registry.Filed) (entry : OverrideEntry) :
    (registry.applyEntry entry).1.Filed := by
  cases target : registry.overrideTarget entry.name with
  | none =>
      rw [applyEntry_of_missing target]
      exact filed
  | some bound =>
      rw [applyEntry_of_target target]
      have counted : { registry with next := registry.next + 1 }.Filed :=
        filed.congr fun _ => rfl
      exact counted.replace _

end Registry

/-! ### Editing a registry -/

/-- Whoever edits a registry has shared instances at hand to bind. -/
structure Editor where
  registry : Registry
  atHand : List Instance

/-- One edit. An instance that was once at hand stays so and can be bound again at any time,
whether or not a name is bound to it at that moment. -/
inductive Edit where
  /-- Share a new component. -/
  | share (component : Component)
  /-- Take up what a name is bound to. -/
  | takeUp (name : String)
  /-- Register the instance at this place of those at hand. -/
  | register (place : Nat)
  /-- Bind the files of the instance at this place of those at hand. -/
  | replace (place : Nat)
  | skip (names : List String)
  | advance (name : String) (next : FileState)
  | applyOverrides (entries : List OverrideEntry)

namespace Editor

/-- Nothing registered, nothing at hand. -/
def initial : Editor :=
  { registry := .empty, atHand := [] }

/-- Change the registry by the instance at a place, if there is one. -/
def withInstance (editor : Editor) (place : Nat)
    (change : Registry → Instance → Registry) : Editor :=
  match editor.atHand[place]? with
  | some bound => { editor with registry := change editor.registry bound }
  | none => editor

def perform (editor : Editor) : Edit → Editor
  | .share component =>
    let (shared, allocated) := editor.registry.allocate component
    { registry := allocated, atHand := editor.atHand ++ [shared] }
  | .takeUp name =>
    { editor with atHand := editor.atHand ++ (editor.registry.get? name).toList }
  | .register place => editor.withInstance place Registry.register
  | .replace place => editor.withInstance place Registry.replace
  | .skip names => { editor with registry := editor.registry.skip names }
  | .advance name next => { editor with registry := editor.registry.advance name next }
  | .applyOverrides entries =>
    { editor with registry := (editor.registry.applyOverrides entries).1 }

/-- The editor after several edits. -/
def run (editor : Editor) (edits : List Edit) : Editor :=
  edits.foldl perform editor

/-- The instance is at hand or bound to a name. -/
def Has (editor : Editor) (bound : Instance) : Prop :=
  bound ∈ editor.atHand ∨ ∃ name, editor.registry.get? name = some bound

/-- The registry is filed, and has given each instance a number of its own. -/
structure Sound (editor : Editor) : Prop where
  filed : editor.registry.Filed
  below : ∀ bound, editor.Has bound → bound.number < editor.registry.next
  numbered : ∀ first second, editor.Has first → editor.Has second →
    first.number = second.number → first = second

variable {editor after : Editor}

theorem Sound.registry_numbered (sound : editor.Sound) : editor.registry.Numbered :=
  fun left right first second leftHeld rightHeld =>
    sound.numbered first second (Or.inr ⟨left, leftHeld⟩) (Or.inr ⟨right, rightHeld⟩)

theorem sound_initial : initial.Sound := by
  have nothing : ∀ bound, ¬initial.Has bound := by
    rintro bound (impossible | ⟨name, impossible⟩)
    · cases impossible
    · cases impossible
  exact ⟨Registry.filed_empty, fun bound has => absurd has (nothing bound),
    fun first _ has => absurd has (nothing first)⟩

/-- What only moves instances about stays sound. -/
theorem Sound.keep (sound : editor.Sound) (filed : after.registry.Filed)
    (sameNext : after.registry.next = editor.registry.next)
    (only : ∀ bound, after.Has bound → editor.Has bound) : after.Sound := by
  refine ⟨filed, ?_, ?_⟩
  · intro bound has
    rw [sameNext]
    exact sound.below bound (only bound has)
  · intro first second firstHas secondHas
    exact sound.numbered first second (only first firstHas) (only second secondHas)

/-- What adds an instance with the next number stays sound. -/
theorem Sound.add (sound : editor.Sound) (new : Instance) (filed : after.registry.Filed)
    (isNext : new.number = editor.registry.next)
    (counted : after.registry.next = editor.registry.next + 1)
    (only : ∀ bound, after.Has bound → bound = new ∨ editor.Has bound) : after.Sound := by
  have fresh : ∀ bound, editor.Has bound → bound.number ≠ new.number := by
    intro bound has
    rw [isNext]
    exact Nat.ne_of_lt (sound.below bound has)
  refine ⟨filed, ?_, ?_⟩
  · intro bound has
    rw [counted]
    rcases only bound has with rfl | old
    · rw [isNext]
      exact Nat.lt_succ_self _
    · exact Nat.lt_succ_of_lt (sound.below bound old)
  · intro first second firstHas secondHas sameNumber
    rcases only first firstHas with rfl | firstOld
    · rcases only second secondHas with rfl | secondOld
      · rfl
      · exact absurd sameNumber.symm (fresh second secondOld)
    · rcases only second secondHas with rfl | secondOld
      · exact absurd sameNumber (fresh first firstOld)
      · exact sound.numbered first second firstOld secondOld sameNumber

/-! ### What each edit keeps -/

theorem Sound.share (sound : editor.Sound) (component : Component) :
    (editor.perform (.share component)).Sound := by
  refine sound.add ⟨editor.registry.next, component⟩ (sound.filed.congr fun _ => rfl) rfl rfl ?_
  rintro bound (inHand | held)
  · rcases List.mem_append.mp inHand with old | new
    · exact Or.inr (Or.inl old)
    · exact Or.inl (List.mem_singleton.mp new)
  · exact Or.inr (Or.inr held)

theorem Sound.takeUp (sound : editor.Sound) (name : String) :
    (editor.perform (.takeUp name)).Sound := by
  refine sound.keep sound.filed rfl ?_
  rintro bound (inHand | held)
  · rcases List.mem_append.mp inHand with old | new
    · exact Or.inl old
    · exact Or.inr ⟨name, Option.mem_toList.mp new⟩
  · exact Or.inr held

/-- Binding an instance that is at hand. -/
theorem Sound.withInstance (sound : editor.Sound) (place : Nat)
    {change : Registry → Instance → Registry}
    (filed : ∀ bound, (change editor.registry bound).Filed)
    (sameNext : ∀ bound, (change editor.registry bound).next = editor.registry.next)
    (binds : ∀ bound name, (change editor.registry bound).get? name =
      if name ∈ bound.component.fileNames then some bound else editor.registry.get? name) :
    (editor.withInstance place change).Sound := by
  unfold Editor.withInstance
  split
  · rename_i bound found
    refine sound.keep (filed bound) (sameNext bound) ?_
    rintro other (inHand | ⟨name, held⟩)
    · exact Or.inl inHand
    · rw [binds] at held
      split at held
      · cases held
        exact Or.inl (List.mem_of_getElem? found)
      · exact Or.inr ⟨name, held⟩
  · exact sound

theorem Sound.advanceAll (sound : editor.Sound) (names : List String) (next : FileState) :
    { editor with registry := editor.registry.advanceAll names next }.Sound := by
  refine sound.keep (sound.filed.advanceAll names next) (Registry.next_advanceAll _ names next) ?_
  rintro bound (inHand | ⟨name, held⟩)
  · exact Or.inl inHand
  · rw [Registry.get?_advanceAll] at held
    exact Or.inr ⟨name, held⟩

theorem Sound.applyEntry (sound : editor.Sound) (entry : OverrideEntry) :
    { editor with registry := (editor.registry.applyEntry entry).1 }.Sound := by
  cases target : editor.registry.overrideTarget entry.name with
  | none =>
      rw [Registry.applyEntry_of_missing target]
      exact sound
  | some bound =>
      refine sound.add (editor.registry.extendedBy entry bound) (sound.filed.applyEntry entry)
        rfl (Registry.next_applyEntry target) ?_
      rintro other (inHand | ⟨name, held⟩)
      · exact Or.inr (Or.inl inHand)
      · rw [Registry.get?_applyEntry target] at held
        split at held
        · exact Or.inl (Option.some.inj held).symm
        · exact Or.inr (Or.inr ⟨name, held⟩)

theorem Sound.applyOverrides (sound : editor.Sound) (entries : List OverrideEntry) :
    { editor with registry := (editor.registry.applyOverrides entries).1 }.Sound := by
  induction entries generalizing editor with
  | nil => exact sound
  | cons entry rest ih => exact ih (sound.applyEntry entry)

theorem Sound.perform (sound : editor.Sound) (edit : Edit) :
    (editor.perform edit).Sound := by
  cases edit with
  | share component => exact sound.share component
  | takeUp name => exact sound.takeUp name
  | register place =>
      exact sound.withInstance place sound.filed.register
        (fun bound => (Registry.next_advanceAll _ _ _).trans (Registry.next_replace _ bound))
        (Registry.get?_register _)
  | replace place =>
      exact sound.withInstance place sound.filed.replace (Registry.next_replace _)
        (Registry.get?_replace _)
  | skip names => exact sound.advanceAll names .skipped
  | advance name next => exact sound.advanceAll [name] next
  | applyOverrides entries => exact sound.applyOverrides entries

theorem Sound.run (sound : editor.Sound) (edits : List Edit) : (editor.run edits).Sound := by
  induction edits generalizing editor with
  | nil => exact sound
  | cons edit rest ih => exact ih (sound.perform edit)

end Editor

/-! ### The list of components -/

namespace Registry

/-- However a registry was edited, bound names are files of what they are bound to, and distinct
instances have distinct lists of files. So each bound instance is listed once, and in whichever
order the bindings are met, the list is the same. -/
theorem components_order_independent (edits : List Edit) :
    let registry := (Editor.initial.run edits).registry
    (∀ name bound, registry.get? name = some bound → name ∈ bound.component.fileNames) ∧
    (∀ left right first second, registry.get? left = some first →
      registry.get? right = some second → first.number ≠ second.number →
        first.component.fileNames ≠ second.component.fileNames) ∧
    (∀ bound, bound ∈ registry.instances ↔ ∃ name, registry.get? name = some bound) ∧
    (registry.instances.map Instance.number).Nodup ∧
    ∀ order : List (String × Instance), order.Perm registry.bindings.entries →
      listed (order.map Prod.snd) = registry.instances ∧
      (listed (order.map Prod.snd)).map Instance.component = registry.components := by
  intro registry
  have sound : (Editor.initial.run edits).Sound := Editor.sound_initial.run edits
  have numbered : registry.Numbered := sound.registry_numbered
  have distinguished := numbered.distinguished sound.filed.apart
  refine ⟨sound.filed.file, ?_, mem_instances_iff numbered, listed_numbers_nodup distinguished, ?_⟩
  · intro left right first second leftHeld rightHeld different sameFiles
    have same := sound.filed.apart left right first second leftHeld rightHeld sameFiles
    exact different (congrArg Instance.number same)
  · intro order isOrder
    have sameList : listed (order.map Prod.snd) = registry.instances :=
      listed_congr distinguished fun bound => (isOrder.map Prod.snd).mem_iff
    exact ⟨sameList, congrArg (List.map Instance.component) sameList⟩

-- The second instance takes one of the names of the first, and each keeps one of its own.
example :
    let shared (names : List String) : Edit := .share ⟨names, [], .empty, .empty⟩
    let registry := (Editor.initial.run
      [shared ["b.sty", "a.sty"], shared ["b.sty", "b.sty"], .register 0, .register 1]).registry
    registry.components.map Component.fileNames = [["b.sty", "a.sty"], ["b.sty", "b.sty"]] := by
  decide +kernel

end Registry

end TexAtlas
