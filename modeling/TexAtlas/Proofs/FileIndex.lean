/-
What an index made of a list holds: the first file of each name, in the order of the list. So a
name leads to the first file of the list that has it.
-/

import TexAtlas.Proofs.References

namespace TexAtlas

variable {seen others : List String} {files : List File} {name : String}

/-- Only membership of the names in `seen` counts. -/
theorem firstOfEachName_congr (same : ∀ name, name ∈ seen ↔ name ∈ others) (files : List File) :
    firstOfEachName seen files = firstOfEachName others files := by
  induction files generalizing seen others with
  | nil => rfl
  | cons file rest ih =>
      have sameAnswer : seen.contains file.name = others.contains file.name := by
        rw [Bool.eq_iff_iff, List.contains_iff_mem, List.contains_iff_mem]
        exact same file.name
      have grown : ∀ name, name ∈ file.name :: seen ↔ name ∈ file.name :: others := by
        intro name
        rw [List.mem_cons, List.mem_cons, same]
      rw [firstOfEachName, firstOfEachName, sameAnswer, ih same, ih grown]

theorem find?_firstOfEachName (unseen : name ∉ seen) (files : List File) :
    (firstOfEachName seen files).find? (fun file => file.name == name) =
      files.find? (fun file => file.name == name) := by
  induction files generalizing seen with
  | nil => rfl
  | cons file rest ih =>
      rw [firstOfEachName]
      by_cases isName : file.name = name
      · have isNew : ¬seen.contains file.name = true := by
          rw [isName]
          exact mt List.contains_iff_mem.mp unseen
        have here : (file.name == name) = true := beq_iff_eq.mpr isName
        rw [if_neg isNew]
        simp only [List.find?_cons, here]
      · have stillUnseen : name ∉ file.name :: seen := by
          rw [List.mem_cons, not_or]
          exact ⟨Ne.symm isName, unseen⟩
        have notHere : (file.name == name) = false := beq_eq_false_iff_ne.mpr isName
        split
        · simp only [List.find?_cons, notHere, ih unseen]
        · simp only [List.find?_cons, notHere, ih stillUnseen]

namespace FileIndex

theorem files_foldl_insert (index : FileIndex) (files : List File) :
    (files.foldl insert index).files =
      index.files ++ firstOfEachName (index.files.map File.name) files := by
  induction files generalizing index with
  | nil => exact (List.append_nil _).symm
  | cons file rest ih =>
      rw [List.foldl_cons, ih, firstOfEachName]
      by_cases taken : file.name ∈ index.files.map File.name
      · rw [insert, dif_pos taken, if_pos (List.contains_iff_mem.mpr taken)]
      · have same : ∀ name, name ∈ (index.files ++ [file]).map File.name ↔
            name ∈ file.name :: index.files.map File.name := by
          intro name
          rw [List.map_append, List.mem_append, List.map_singleton, List.mem_singleton,
            List.mem_cons]
          exact Or.comm
        rw [insert, dif_neg taken, if_neg (mt List.contains_iff_mem.mp taken)]
        dsimp only
        rw [firstOfEachName_congr same, List.append_assoc]
        rfl

theorem files_ofList (files : List File) : (ofList files).files = firstOfEachName [] files :=
  files_foldl_insert empty files

theorem lookup_ofList (files : List File) (name : String) :
    (ofList files).lookup name = files.find? (fun file => file.name == name) := by
  rw [lookup, files_ofList, find?_firstOfEachName List.not_mem_nil]

end FileIndex

end TexAtlas
