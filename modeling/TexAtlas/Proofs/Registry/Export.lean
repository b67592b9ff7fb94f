/-
What is exported of a registry: one component per instance, in the order of the file names.
Where no two instances have the same file names the order is strict, so the list is fixed by the
instances that are bound, however they are met, and registries that are alike on every file
export the same components.
-/

import Mathlib.Data.String.Basic
import TexAtlas.Proofs.Registry.Alike

namespace TexAtlas.Registry

/-! ### One entry per instance -/

theorem mem_distinctInstances_iff {items : List Instance}
    (numbered : ∀ left ∈ items, ∀ right ∈ items, left.number = right.number → left = right)
    (seen : List Nat) (bound : Instance) :
    bound ∈ distinctInstances seen items ↔ bound ∈ items ∧ bound.number ∉ seen := by
  induction items generalizing seen with
  | nil => simp [distinctInstances]
  | cons head tail ih =>
      have numberedTail : ∀ left ∈ tail, ∀ right ∈ tail, left.number = right.number →
          left = right := fun left inLeft right inRight =>
        numbered left (List.mem_cons_of_mem head inLeft) right (List.mem_cons_of_mem head inRight)
      unfold distinctInstances
      split
      · rename_i known
        rw [ih numberedTail, List.mem_cons]
        constructor
        · exact fun ⟨inTail, fresh⟩ => ⟨Or.inr inTail, fresh⟩
        · rintro ⟨rfl | inTail, fresh⟩
          · exact absurd (List.contains_iff_mem.mp known) fresh
          · exact ⟨inTail, fresh⟩
      · rename_i new
        rw [List.mem_cons, ih numberedTail, List.mem_cons, List.mem_cons, not_or]
        constructor
        · rintro (rfl | ⟨inTail, _, fresh⟩)
          · exact ⟨Or.inl rfl, fun inSeen => new (List.contains_iff_mem.mpr inSeen)⟩
          · exact ⟨Or.inr inTail, fresh⟩
        · rintro ⟨rfl | inTail, fresh⟩
          · exact Or.inl rfl
          · by_cases same : bound.number = head.number
            · exact Or.inl (numbered bound (List.mem_cons_of_mem head inTail) head
                (List.mem_cons_self ..) same)
            · exact Or.inr ⟨inTail, same, fresh⟩

theorem distinctInstances_numbers (seen : List Nat) (items : List Instance) :
    (distinctInstances seen items).Pairwise (fun left right => left.number ≠ right.number) ∧
      ∀ bound ∈ distinctInstances seen items, bound.number ∉ seen := by
  induction items generalizing seen with
  | nil => exact ⟨List.Pairwise.nil, fun _ impossible => absurd impossible List.not_mem_nil⟩
  | cons head tail ih =>
      unfold distinctInstances
      split
      · exact ih seen
      · rename_i new
        obtain ⟨apart, fresh⟩ := ih (head.number :: seen)
        refine ⟨List.pairwise_cons.mpr ⟨?_, apart⟩, ?_⟩
        · intro bound member same
          exact fresh bound member (List.mem_cons.mpr (Or.inl same.symm))
        · intro bound member inSeen
          rcases List.mem_cons.mp member with rfl | later
          · exact new (List.contains_iff_mem.mpr inSeen)
          · exact fresh bound later (List.mem_cons_of_mem _ inSeen)

/-! ### The order of the file names -/

/-- The files of one component come before those of another. -/
def Precedes (left right : Instance) : Prop :=
  left.component.fileNames < right.component.fileNames

theorem mem_placeByNames (bound other : Instance) (sorted : List Instance) :
    other ∈ placeByNames bound sorted ↔ other = bound ∨ other ∈ sorted := by
  induction sorted with
  | nil => simp [placeByNames]
  | cons head tail ih =>
      unfold placeByNames
      split
      · rw [List.mem_cons]
      · rw [List.mem_cons, ih, List.mem_cons]
        constructor
        · rintro (isHead | isBound | inTail)
          · exact Or.inr (Or.inl isHead)
          · exact Or.inl isBound
          · exact Or.inr (Or.inr inTail)
        · rintro (isBound | isHead | inTail)
          · exact Or.inr (Or.inl isBound)
          · exact Or.inl isHead
          · exact Or.inr (Or.inr inTail)

theorem placeByNames_ascending {bound : Instance} {sorted : List Instance}
    (ascending : sorted.Pairwise Precedes)
    (fresh : ∀ other ∈ sorted, bound.component.fileNames ≠ other.component.fileNames) :
    (placeByNames bound sorted).Pairwise Precedes := by
  induction sorted with
  | nil => exact List.pairwise_singleton _ _
  | cons head tail ih =>
      obtain ⟨before, tailAscending⟩ := List.pairwise_cons.mp ascending
      unfold placeByNames
      split
      · rename_i less
        refine List.pairwise_cons.mpr ⟨?_, ascending⟩
        intro other member
        rcases List.mem_cons.mp member with rfl | later
        · exact less
        · exact List.lt_trans less (before other later)
      · rename_i notLess
        refine List.pairwise_cons.mpr ⟨?_, ih tailAscending (fun other later =>
          fresh other (List.mem_cons_of_mem head later))⟩
        intro other member
        rcases (mem_placeByNames bound other tail).mp member with rfl | later
        · by_contra notGreater
          exact fresh head (List.mem_cons_self ..) (List.le_antisymm notGreater notLess)
        · exact before other later

theorem mem_foldl_placeByNames (items sorted : List Instance) (bound : Instance) :
    bound ∈ items.foldl (fun sorted bound => placeByNames bound sorted) sorted ↔
      bound ∈ sorted ∨ bound ∈ items := by
  have each : ∀ sorted other,
      bound ∈ placeByNames other sorted ↔ bound ∈ sorted ∨ bound = other := fun sorted other =>
    (mem_placeByNames other bound sorted).trans or_comm
  refine (foldl_iff (bound ∈ ·) each items sorted).trans ?_
  simp only [exists_eq_right']

theorem foldl_placeByNames_ascending {items sorted : List Instance}
    (ascending : sorted.Pairwise Precedes)
    (distinct : items.Pairwise (fun left right =>
      left.component.fileNames ≠ right.component.fileNames))
    (fresh : ∀ bound ∈ items, ∀ other ∈ sorted,
      bound.component.fileNames ≠ other.component.fileNames) :
    (items.foldl (fun sorted bound => placeByNames bound sorted) sorted).Pairwise Precedes := by
  induction items generalizing sorted with
  | nil => exact ascending
  | cons head tail ih =>
      obtain ⟨apart, tailDistinct⟩ := List.pairwise_cons.mp distinct
      refine ih (placeByNames_ascending ascending (fresh head (List.mem_cons_self ..)))
        tailDistinct ?_
      intro bound later other member
      rcases (mem_placeByNames head other sorted).mp member with rfl | old
      · exact (apart bound later).symm
      · exact fresh bound (List.mem_cons_of_mem head later) other old

/-! ### What is listed of some instances -/

/-- Instances as they are listed: each once, in the order of the file names. -/
def listed (items : List Instance) : List Instance :=
  sortByNames (distinctInstances [] items)

/-- Numbers tell the instances apart, and so do the lists of file names. -/
structure Distinguished (items : List Instance) : Prop where
  numbers : ∀ left ∈ items, ∀ right ∈ items, left.number = right.number → left = right
  files : ∀ left ∈ items, ∀ right ∈ items,
    left.component.fileNames = right.component.fileNames → left = right

section

variable {items others : List Instance}

theorem mem_listed_iff
    (numbers : ∀ left ∈ items, ∀ right ∈ items, left.number = right.number → left = right)
    (bound : Instance) : bound ∈ listed items ↔ bound ∈ items := by
  rw [listed, sortByNames, mem_foldl_placeByNames, mem_distinctInstances_iff numbers]
  simp

theorem listed_ascending (distinguished : Distinguished items) :
    (listed items).Pairwise Precedes := by
  refine foldl_placeByNames_ascending List.Pairwise.nil ?_
    (fun _ _ _ impossible => absurd impossible List.not_mem_nil)
  refine (distinctInstances_numbers [] items).1.imp_of_mem ?_
  intro left right inLeft inRight different sameFiles
  have isItem : ∀ bound ∈ distinctInstances [] items, bound ∈ items := fun bound member =>
    ((mem_distinctInstances_iff distinguished.numbers [] bound).mp member).1
  exact different (congrArg Instance.number
    (distinguished.files left (isItem left inLeft) right (isItem right inRight) sameFiles))

/-- What is in strictly ascending order of its files is fixed by its members. -/
theorem eq_of_ascending {α : Type} {filesOf : α → List String} {left right : List α}
    (leftAscending : left.Pairwise (fun one two => filesOf one < filesOf two))
    (rightAscending : right.Pairwise (fun one two => filesOf one < filesOf two))
    (same : ∀ item, item ∈ left ↔ item ∈ right) : left = right := by
  have irreflexive : Std.Irrefl (fun one two : α => filesOf one < filesOf two) :=
    ⟨fun item => List.lt_irrefl (filesOf item)⟩
  have antisymmetric : Std.Antisymm (fun one two : α => filesOf one < filesOf two) :=
    ⟨fun one _ less greater => absurd (List.lt_trans less greater) (List.lt_irrefl (filesOf one))⟩
  exact leftAscending.eq_of_mem_iff rightAscending (fun {item} => same item)

/-- In which order and how often instances are met plays no part. -/
theorem listed_congr (distinguished : Distinguished items)
    (same : ∀ bound, bound ∈ others ↔ bound ∈ items) : listed others = listed items := by
  have otherDistinguished : Distinguished others := by
    constructor
    · intro left inLeft right inRight
      exact distinguished.numbers left ((same left).mp inLeft) right ((same right).mp inRight)
    · intro left inLeft right inRight
      exact distinguished.files left ((same left).mp inLeft) right ((same right).mp inRight)
  refine eq_of_ascending (listed_ascending otherDistinguished) (listed_ascending distinguished) ?_
  intro bound
  rw [mem_listed_iff otherDistinguished.numbers, mem_listed_iff distinguished.numbers, same]

/-- Each instance is listed once. -/
theorem listed_numbers_nodup (distinguished : Distinguished items) :
    ((listed items).map Instance.number).Nodup := by
  refine List.pairwise_map.mpr ((listed_ascending distinguished).imp_of_mem ?_)
  intro left right inLeft inRight precedes sameNumber
  have same : left = right := distinguished.numbers
    left ((mem_listed_iff distinguished.numbers left).mp inLeft)
    right ((mem_listed_iff distinguished.numbers right).mp inRight) sameNumber
  rw [same] at precedes
  exact List.lt_irrefl _ precedes

end

/-! ### The exported components -/

variable {registry other : Registry}

/-- Bound instances are told apart by their lists of file names. -/
def ApartByFiles (registry : Registry) : Prop :=
  ∀ left right first second, registry.get? left = some first →
    registry.get? right = some second →
      first.component.fileNames = second.component.fileNames → first = second

/-- Instances that are bound under just their files are told apart by them. -/
theorem BoundExactly.apartByFiles (exact : registry.BoundExactly) : registry.ApartByFiles := by
  intro left right first second leftHeld rightHeld sameFiles
  -- A file of the one is a file of the other, and a file is bound to one instance.
  have inside := (exact left first leftHeld left).mp leftHeld
  rw [sameFiles, ← exact right second rightHeld left, leftHeld] at inside
  exact Option.some.inj inside

theorem Numbered.values (numbered : registry.Numbered) :
    ∀ left ∈ registry.bindings.values, ∀ right ∈ registry.bindings.values,
      left.number = right.number → left = right := by
  intro left inLeft right inRight same
  obtain ⟨leftName, leftHeld⟩ := NameMap.exists_get?_of_mem_values inLeft
  obtain ⟨rightName, rightHeld⟩ := NameMap.exists_get?_of_mem_values inRight
  exact numbered leftName rightName left right leftHeld rightHeld same

theorem Numbered.distinguished (numbered : registry.Numbered) (apart : registry.ApartByFiles) :
    Distinguished registry.bindings.values := by
  refine ⟨numbered.values, ?_⟩
  intro left inLeft right inRight same
  obtain ⟨leftName, leftHeld⟩ := NameMap.exists_get?_of_mem_values inLeft
  obtain ⟨rightName, rightHeld⟩ := NameMap.exists_get?_of_mem_values inRight
  exact apart leftName rightName left right leftHeld rightHeld same

theorem mem_instances_iff (numbered : registry.Numbered) (bound : Instance) :
    bound ∈ registry.instances ↔ ∃ name, registry.get? name = some bound := by
  refine (mem_listed_iff numbered.values bound).trans ⟨?_, ?_⟩
  · exact NameMap.exists_get?_of_mem_values
  · rintro ⟨name, held⟩
    exact NameMap.mem_values_of_get? held

theorem instances_ascending (numbered : registry.Numbered) (apart : registry.ApartByFiles) :
    registry.instances.Pairwise Precedes :=
  listed_ascending (numbered.distinguished apart)

theorem mem_components_iff (numbered : registry.Numbered) (component : Component) :
    component ∈ registry.components ↔
      ∃ name, (registry.get? name).map Instance.component = some component := by
  rw [components, List.mem_map]
  constructor
  · rintro ⟨bound, member, rfl⟩
    obtain ⟨name, held⟩ := (mem_instances_iff numbered bound).mp member
    exact ⟨name, by rw [held]; rfl⟩
  · rintro ⟨name, found⟩
    obtain ⟨bound, held, rfl⟩ := Option.map_eq_some_iff.mp found
    exact ⟨bound, (mem_instances_iff numbered bound).mpr ⟨name, held⟩, rfl⟩

theorem components_ascending (numbered : registry.Numbered) (exact : registry.BoundExactly) :
    registry.components.Pairwise (fun left right => left.fileNames < right.fileNames) :=
  List.pairwise_map.mpr (instances_ascending numbered exact.apartByFiles)

/-- Registries that are alike on every file export the same components. -/
theorem components_congr (alike : ∀ name, registry.AlikeOn other name)
    (numbered : registry.Numbered) (exact : registry.BoundExactly)
    (otherNumbered : other.Numbered) (otherExact : other.BoundExactly) :
    other.components = registry.components := by
  refine eq_of_ascending (components_ascending otherNumbered otherExact)
    (components_ascending numbered exact) ?_
  intro component
  rw [mem_components_iff otherNumbered, mem_components_iff numbered]
  simp only [(alike _).component]

/-- Of the components just the one that a file is bound to lists the file. -/
theorem filter_components (numbered : registry.Numbered) (exact : registry.BoundExactly)
    (name : String) :
    registry.components.filter (fun component => component.containsFile name) =
      ((registry.get? name).map Instance.component).toList := by
  have single : ∀ found : Option Component,
      found.toList.Pairwise (fun one two => one.fileNames < two.fileNames) := by
    rintro (_ | component)
    · exact List.Pairwise.nil
    · exact List.pairwise_singleton _ _
  refine eq_of_ascending ((components_ascending numbered exact).filter _) (single _) ?_
  intro component
  rw [List.mem_filter, mem_components_iff numbered, Option.mem_toList, Option.map_eq_some_iff,
    Component.containsFile, List.contains_iff_mem]
  constructor
  · rintro ⟨⟨other, found⟩, inside⟩
    obtain ⟨bound, held, rfl⟩ := Option.map_eq_some_iff.mp found
    exact ⟨bound, (exact other bound held name).mpr inside, rfl⟩
  · rintro ⟨bound, held, rfl⟩
    exact ⟨⟨name, by rw [held]; rfl⟩, (exact name bound held name).mp held⟩

/-! ### The skipped files -/

theorem mem_skippedFiles_iff (registry : Registry) (name : String) :
    name ∈ registry.skippedFiles ↔ registry.state name = .skipped := by
  rw [skippedFiles, SortedNames.mem_ofList, List.mem_map]
  constructor
  · rintro ⟨⟨key, found⟩, member, rfl⟩
    obtain ⟨present, skipped⟩ := List.mem_filter.mp member
    rw [state, (NameMap.mem_entries_iff registry.states key found).mp present]
    exact beq_iff_eq.mp skipped
  · intro skipped
    cases found : registry.states.get? name with
    | none =>
        rw [state, found] at skipped
        cases skipped
    | some known =>
        rw [state, found] at skipped
        have isSkipped : known = .skipped := skipped
        refine ⟨(name, known), List.mem_filter.mpr ⟨?_, beq_iff_eq.mpr isSkipped⟩, rfl⟩
        exact (NameMap.mem_entries_iff registry.states name known).mpr found

theorem skippedFiles_congr (alike : ∀ name, registry.AlikeOn other name) :
    other.skippedFiles = registry.skippedFiles := by
  have ascending : ∀ each : Registry, each.skippedFiles.Pairwise (· < ·) := fun _ =>
    (SortedNames.ofList _).ascending
  refine SortedNames.ascending_unique (ascending other) (ascending registry) ?_
  intro name
  rw [mem_skippedFiles_iff, mem_skippedFiles_iff, (alike name).state]

end TexAtlas.Registry
