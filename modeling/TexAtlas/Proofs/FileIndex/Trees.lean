/-
The trees from which the engines load files. A directory lies in a tree if the tree is what it
begins with, segment by segment; a longer name that begins like that of a tree is no tree.
-/

import TexAtlas.FileIndex.Listing
import TexAtlas.Proofs.Path

namespace TexAtlas.Listing

/-- The trees below `tex`, each with the engine that loads its files. -/
def engines : List (String × Format) :=
  [("plain", .latex), ("generic", .latex), ("latex", .latex), ("luatex", .lualatex),
   ("lualatex", .lualatex), ("xetex", .xelatex), ("xelatex", .xelatex)]

/-- The directory is the tree, or what is left of it names a directory below the tree. -/
structure LiesBelow (tree : String) (below directory : List Char) : Prop where
  whole : directory = "tex/".toList ++ tree.toList ++ below
  apart : ∀ c, below.head? = some c → c = '/'

variable {directory below : List Char} {engine : String × Format}

theorem liesIn_iff {root : List Char} : liesIn root directory = true ↔
    ∃ below, directory = root ++ below ∧ ∀ c, below.head? = some c → c = '/' := by
  unfold liesIn
  cases after : Text.after? root directory with
  | none =>
      constructor
      · intro impossible
        cases impossible
      · rintro ⟨below, whole, _⟩
        rw [Text.after?_eq_some_iff.mpr whole] at after
        cases after
  | some rest =>
      have whole := Text.after?_eq_some_iff.mp after
      have only : ∀ below, directory = root ++ below → below = rest := fun below same =>
        List.append_cancel_left (same.symm.trans whole)
      cases rest with
      | nil => exact iff_of_true rfl ⟨[], whole, nofun⟩
      | cons c rest =>
          constructor
          · intro isSlash
            refine ⟨c :: rest, whole, ?_⟩
            rintro other ⟨⟩
            exact beq_iff_eq.mp isSlash
          · rintro ⟨below, same, apart⟩
            rw [only below same] at apart
            exact beq_iff_eq.mpr (apart c rfl)

theorem isTreeDirectory_iff : isTreeDirectory directory = true ↔
    ∃ engine ∈ engines, ∃ below, LiesBelow engine.1 below directory := by
  have roots : treeRoots = engines.map (fun engine => "tex/" ++ engine.1) := rfl
  rw [isTreeDirectory, List.any_eq_true, roots]
  constructor
  · rintro ⟨root, isRoot, lies⟩
    obtain ⟨engine, isEngine, rfl⟩ := List.mem_map.mp isRoot
    obtain ⟨below, whole, apart⟩ := liesIn_iff.mp lies
    rw [String.toList_append] at whole
    exact ⟨engine, isEngine, below, whole, apart⟩
  · rintro ⟨engine, isEngine, below, whole, apart⟩
    refine ⟨_, List.mem_map_of_mem isEngine, liesIn_iff.mpr ⟨below, ?_, apart⟩⟩
    rw [String.toList_append]
    exact whole

theorem tree_isName (isEngine : engine ∈ engines) : Path.IsName engine.1.toList := by
  have names : ∀ engine ∈ engines, Path.IsName engine.1.toList := by decide
  exact names engine isEngine

/-- The segments of a directory in a tree begin with those of the tree. -/
theorem LiesBelow.runs_eq (isEngine : engine ∈ engines)
    (lies : LiesBelow engine.1 below directory) :
    Text.runs (· == '/') directory =
      "tex".toList :: engine.1.toList :: Text.runs (· == '/') below := by
  obtain ⟨present, noSlash, _, _⟩ := tree_isName isEngine
  have free : ∀ c ∈ engine.1.toList, (c == '/') = false := fun c inside =>
    beq_eq_false_iff_ne.mpr fun isSlash => noSlash (isSlash ▸ inside)
  have apart : ∀ c, below.head? = some c → (c == '/') = true := fun c isFirst =>
    beq_iff_eq.mpr (lies.apart c isFirst)
  have front : directory = "tex".toList ++ '/' :: (engine.1.toList ++ below) := by
    rw [lies.whole]
    rfl
  have ofTex : Text.runs (· == '/') "tex".toList = ["tex".toList] := by decide
  rw [front, Text.runs_append_cons _ rfl, ofTex, Text.runs_append_of_ends present free apart]
  rfl

end TexAtlas.Listing
