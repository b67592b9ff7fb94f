/-
Names with an extension have a dot. The extension of a path follows a dot of its last
segment, and segments are cut from the path, so the dot stands in the path already. Files
of a listing, and classes and styles, have an extension.
-/

import Mathlib.Data.List.TakeWhile
import TexAtlas.FileIndex.Listing
import TexAtlas.Proofs.FileIndex

namespace TexAtlas

namespace Text

variable {α : Type} {separates : α → Bool}

theorem mem_of_mem_cutAt {items piece : List α} {item : α} (isPiece : piece ∈ cutAt separates items)
    (inside : item ∈ piece) : item ∈ items := by
  induction items generalizing piece with
  | nil =>
      rw [cutAt, List.mem_singleton] at isPiece
      rw [isPiece] at inside
      cases inside
  | cons head tail ih =>
      unfold cutAt at isPiece
      split at isPiece
      · rcases List.mem_cons.mp isPiece with rfl | later
        · cases inside
        · exact List.mem_cons_of_mem head (ih later inside)
      · cases pieces : cutAt separates tail with
        | nil => exact absurd pieces (cutAt_ne_nil _ _)
        | cons first others =>
            rw [pieces] at ih isPiece
            rcases List.mem_cons.mp isPiece with rfl | later
            · rcases List.mem_cons.mp inside with rfl | inFirst
              · exact List.mem_cons_self ..
              · exact List.mem_cons_of_mem head (ih (List.mem_cons_self ..) inFirst)
            · exact List.mem_cons_of_mem head (ih (List.mem_cons_of_mem first later) inside)

theorem mem_of_mem_runs {items piece : List α} {item : α} (isPiece : piece ∈ runs separates items)
    (inside : item ∈ piece) : item ∈ items :=
  mem_of_mem_cutAt (List.mem_filter.mp isPiece).1 inside

end Text

namespace Path

theorem mem_of_splitAtLastDot {name : List Text.Glyph} {parts : List Text.Glyph × List Text.Glyph}
    (splits : splitAtLastDot name = some parts) : dot ∈ name := by
  by_contra absent
  have noDot : ∀ glyph ∈ name.reverse, (glyph != dot) = true := by
    intro glyph member
    rw [bne_iff_ne]
    rintro rfl
    exact absent (List.mem_reverse.mp member)
  have whole : name.reverse.takeWhile (· != dot) = name.reverse :=
    List.takeWhile_eq_self_iff.mpr noDot
  unfold splitAtLastDot at splits
  simp [whole] at splits

theorem mem_steps_of_fileName {path : Path} {name : List Text.Glyph}
    (named : path.fileName = some name) : .named name ∈ path.steps := by
  unfold fileName at named
  split at named
  · rename_i last isLast
    cases named
    have member := List.mem_of_getLast? isLast
    unfold segments at member
    split at member
    · rcases List.mem_cons.mp member with impossible | kept
      · cases impossible
      · exact (List.mem_filter.mp kept).1
    · split at member
      · cases member
      · rename_i first rest stepsAre
        rw [stepsAre]
        rcases List.mem_cons.mp member with rfl | kept
        · exact List.mem_cons_self ..
        · exact List.mem_cons_of_mem first (List.mem_filter.mp kept).1
  · cases named

theorem mem_runs_of_fileName {path : Path} {name : List Text.Glyph}
    (named : path.fileName = some name) : name ∈ Text.runs (· == slash) path.glyphs := by
  obtain ⟨piece, isPiece, same⟩ := List.mem_map.mp (mem_steps_of_fileName named)
  unfold Segment.ofGlyphs at same
  split at same
  · cases same
  · split at same
    · cases same
    · cases same
      exact isPiece

theorem mem_glyphs_of_fileName {path : Path} {name : List Text.Glyph} {glyph : Text.Glyph}
    (named : path.fileName = some name) (inside : glyph ∈ name) : glyph ∈ path.glyphs :=
  Text.mem_of_mem_runs (mem_runs_of_fileName named) inside

/-- A path with an extension has a file name with a dot. -/
theorem fileName_of_extension {path : Path} (extended : path.extension.isSome = true) :
    ∃ name, path.fileName = some name ∧ dot ∈ name := by
  unfold extension at extended
  split at extended
  · rename_i splits
    obtain ⟨name, named, parts⟩ := Option.bind_eq_some_iff.mp splits
    exact ⟨name, named, mem_of_splitAtLastDot parts⟩
  · cases extended

end Path

/-- Classes and styles have a dot in their name. -/
theorem Role.dot_mem_of_isComponent {name : String}
    (component : (ofName name).isComponent = true) : '.' ∈ name.toList := by
  have extended : (Path.ofString name).extension.isSome = true := by
    unfold ofName at component
    split at component
    · rename_i found
      rw [found]
      rfl
    · cases component
  obtain ⟨fileName, named, hasDot⟩ := Path.fileName_of_extension extended
  obtain ⟨c, inName, same⟩ := List.mem_map.mp (Path.mem_glyphs_of_fileName named hasDot)
  cases same
  exact inName

/-! ### Listings -/

theorem FileIndex.mem_of_mem_ofList {files : List File} {file : File}
    (member : file ∈ (ofList files).files) : file ∈ files := by
  rw [files_ofList] at member
  exact mem_of_mem_firstOfEachName member

namespace Listing

theorem dot_mem_of_fileOf {position : Position} {entry : List Char} {file : File}
    (counted : fileOf position entry = some file) : '.' ∈ file.name.toList := by
  unfold fileOf at counted
  dsimp only at counted
  split at counted
  · rename_i wanted
    cases counted
    obtain ⟨name, named, hasDot⟩ :=
      Path.fileName_of_extension (Bool.and_eq_true_iff.mp wanted).2
    rw [File.ofPath, named, Option.getD_some, String.toList_ofList]
    exact List.mem_map_of_mem (f := Text.Glyph.shown) hasDot
  · cases counted

theorem dot_mem_of_mem_filesFrom {root : Path} {lines : List (List Char)} {position : Position}
    {file : File} (member : file ∈ filesFrom root position lines) : '.' ∈ file.name.toList := by
  induction lines generalizing position with
  | nil => cases member
  | cons line rest ih =>
      unfold filesFrom at member
      split at member
      · exact ih member
      · exact ih member
      · rcases List.mem_append.mp member with here | later
        · exact dot_mem_of_fileOf (Option.mem_toList.mp here)
        · exact ih later

/-- Every file that a listing names has a dot in its name. -/
theorem dot_mem_of_mem_index {root : Path} {text : String} {file : File}
    (member : file ∈ (index root text).files) : '.' ∈ file.name.toList :=
  dot_mem_of_mem_filesFrom (FileIndex.mem_of_mem_ofList member)

end Listing

end TexAtlas
