/-
What a file refers to. References are known by their names, each name once; the references
that leave a group are those of its members that are no members themselves.
-/

import TexAtlas.Component
import TexAtlas.FileIndex
import TexAtlas.Proofs.Names

namespace TexAtlas

theorem mem_of_mem_firstOfEachName {seen : List String} {files : List File} {file : File}
    (member : file ∈ firstOfEachName seen files) : file ∈ files := by
  induction files generalizing seen with
  | nil => cases member
  | cons head tail ih =>
      unfold firstOfEachName at member
      split at member
      · exact List.mem_cons_of_mem head (ih member)
      · rcases List.mem_cons.mp member with same | later
        · exact List.mem_cons.mpr (Or.inl same)
        · exact List.mem_cons_of_mem head (ih later)

theorem name_mem_firstOfEachName (seen : List String) (files : List File) (name : String) :
    name ∈ (firstOfEachName seen files).map File.name ↔
      name ∈ files.map File.name ∧ name ∉ seen := by
  induction files generalizing seen with
  | nil => simp [firstOfEachName]
  | cons head tail ih =>
      unfold firstOfEachName
      split
      · rename_i met
        have present : head.name ∈ seen := List.contains_iff_mem.mp met
        rw [ih, List.map_cons, List.mem_cons]
        constructor
        · rintro ⟨later, unseen⟩
          exact ⟨Or.inr later, unseen⟩
        · rintro ⟨same | later, unseen⟩
          · exact absurd (same ▸ present) unseen
          · exact ⟨later, unseen⟩
      · rename_i new
        have absent : head.name ∉ seen := fun present => new (List.contains_iff_mem.mpr present)
        rw [List.map_cons, List.mem_cons, ih, List.map_cons, List.mem_cons, List.mem_cons]
        by_cases same : name = head.name
        · subst same
          simp [absent]
        · simp [same]

theorem nodup_firstOfEachName (seen : List String) (files : List File) :
    ((firstOfEachName seen files).map File.name).Nodup := by
  induction files generalizing seen with
  | nil => exact List.nodup_nil
  | cons head tail ih =>
      unfold firstOfEachName
      split
      · exact ih seen
      · refine List.nodup_cons.mpr ⟨?_, ih (head.name :: seen)⟩
        intro again
        exact ((name_mem_firstOfEachName _ _ _).mp again).2 (List.mem_cons_self ..)

/-- Where files of one name are the same file, no file is lost. -/
theorem mem_firstOfEachName_iff {files : List File}
    (same : ∀ file ∈ files, ∀ other ∈ files, file.name = other.name → file = other)
    (file : File) : file ∈ firstOfEachName [] files ↔ file ∈ files := by
  refine ⟨mem_of_mem_firstOfEachName, ?_⟩
  intro member
  obtain ⟨first, isFirst, named⟩ := List.mem_map.mp
    ((name_mem_firstOfEachName [] files file.name).mpr
      ⟨List.mem_map_of_mem member, List.not_mem_nil⟩)
  rw [same file member first (mem_of_mem_firstOfEachName isFirst) named.symm]
  exact isFirst

namespace Dependency

/-- The names of the classes and styles that a file loads. -/
def referenceNames (dependency : Dependency) : List String :=
  dependency.references.map File.name

theorem mem_references {dependency : Dependency} {file : File}
    (member : file ∈ dependency.references) :
    file ∈ dependency.loaded ∧ file.name ≠ dependency.name ∧ file.role.isComponent = true := by
  have kept := List.mem_filter.mp (mem_of_mem_firstOfEachName member)
  simp only [Bool.and_eq_true, Bool.not_eq_true', File.same, beq_eq_false_iff_ne] at kept
  obtain ⟨included, different, component⟩ := kept
  rcases List.mem_cons.mp included with same | loaded
  · exact absurd (congrArg File.name same) different
  · exact ⟨loaded, different, component⟩

theorem mem_referenceNames (dependency : Dependency) (name : String) :
    name ∈ dependency.referenceNames ↔ ∃ file ∈ dependency.references, file.name = name :=
  List.mem_map

end Dependency

namespace Kernel

/-- The kernel has the symbol as a command or as an environment. -/
def Defines (kernel : Kernel) (symbol : String) : Prop :=
  symbol ∈ kernel.commands.toList ∨ symbol ∈ kernel.environments.toList

instance (kernel : Kernel) (symbol : String) : Decidable (kernel.Defines symbol) :=
  inferInstanceAs (Decidable (_ ∨ _))

theorem contains_eq_false_iff (kernel : Kernel) (symbol : String) :
    kernel.contains symbol = false ↔ ¬kernel.Defines symbol := by
  rw [Defines, not_or, contains, Bool.or_eq_false_iff, ← Bool.not_eq_true, ← Bool.not_eq_true,
    NameSet.contains_iff, NameSet.contains_iff]

end Kernel

namespace Component

/-- Exactly the names that some member refers to and that are no members. -/
theorem mem_outwardReferences (members : List Dependency) (name : String) :
    name ∈ outwardReferences members ↔
      (∃ member ∈ members, name ∈ member.referenceNames) ∧
        name ∉ members.map Dependency.name := by
  rw [outwardReferences, NameSet.mem_ofList, List.mem_filter, List.mem_flatMap]
  simp only [Dependency.referenceNames, Bool.not_eq_true', List.contains_eq_mem,
    decide_eq_false_iff_not]

/-- The component has the symbol as a command or as an environment. -/
def Defines (component : Component) (symbol : String) : Prop :=
  symbol ∈ component.commands.toList ∨ symbol ∈ component.environments.toList

instance (component : Component) (symbol : String) : Decidable (component.Defines symbol) :=
  inferInstanceAs (Decidable (_ ∨ _))

theorem defines_eq_false_iff (component : Component) (symbol : String) :
    component.defines symbol = false ↔ ¬component.Defines symbol := by
  rw [Defines, not_or, defines, Bool.or_eq_false_iff, ← Bool.not_eq_true, ← Bool.not_eq_true,
    NameSet.contains_iff, NameSet.contains_iff]

end Component

namespace FileIndex

theorem mem_of_lookup {index : FileIndex} {name : String} {file : File}
    (found : index.lookup name = some file) : file ∈ index.files ∧ file.name = name := by
  unfold lookup at found
  have named := List.find?_some found
  exact ⟨List.mem_of_find?_eq_some found, beq_iff_eq.mp named⟩

theorem lookup_of_mem {index : FileIndex} {file : File} (member : file ∈ index.files) :
    index.lookup file.name = some file := by
  cases found : index.lookup file.name with
  | none => exact absurd (beq_self_eq_true _) (List.find?_eq_none.mp found file member)
  | some other =>
      obtain ⟨present, same⟩ := mem_of_lookup found
      rw [List.inj_on_of_nodup_map index.distinct present member same]

theorem contains_iff (index : FileIndex) (name : String) :
    index.contains name = true ↔ ∃ file, index.lookup name = some file := by
  rw [contains, List.contains_iff_mem, List.mem_map]
  constructor
  · rintro ⟨file, member, rfl⟩
    exact ⟨file, lookup_of_mem member⟩
  · rintro ⟨file, found⟩
    exact ⟨file, mem_of_lookup found⟩

theorem resolve_name (index : FileIndex) (name : String) : (index.resolve name).name = name := by
  unfold resolve
  cases found : index.lookup name with
  | none => rfl
  | some file => exact (mem_of_lookup found).2

theorem resolve_of_mem {index : FileIndex} {file : File} (member : file ∈ index.files) :
    index.resolve file.name = file := by
  rw [resolve, lookup_of_mem member]
  rfl

end FileIndex

end TexAtlas
