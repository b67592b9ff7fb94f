/-
Which engine the files of a listing get. The segment after the last `tex` that has a successor
decides, and a file of the index lies below a `tex` of its own listing, so the root plays no part.
The tree of the file decides unless a subdirectory below the tree is called `tex` again.
-/

import TexAtlas.Proofs.Extension
import TexAtlas.Proofs.FileIndex.Trees

namespace TexAtlas

/-! ### The last `tex` of a path -/

namespace Format

variable {front rest : List (List Char)} {tree : List Char}

theorem treeName_eq_none {segments : List (List Char)}
    (absent : "tex".toList ∉ segments.dropLast) : treeName segments = none := by
  induction segments with
  | nil => rfl
  | cons segment rest ih =>
      cases rest with
      | nil => rfl
      | cons next rest =>
          rw [List.dropLast_cons_cons, List.mem_cons, not_or] at absent
          rw [treeName, ih absent.2, if_neg (Ne.symm absent.1)]

/-- What stands before the last `tex` plays no part. -/
theorem treeName_append (front : List (List Char))
    (absent : "tex".toList ∉ (tree :: rest).dropLast) :
    treeName (front ++ "tex".toList :: tree :: rest) = some tree := by
  induction front with
  | nil => rw [List.nil_append, treeName, treeName_eq_none absent, if_pos rfl]
  | cons segment front ih =>
      cases front with
      | nil =>
          rw [List.nil_append] at ih
          rw [List.singleton_append, treeName, ih]
      | cons next front =>
          rw [List.cons_append] at ih
          rw [List.cons_append, List.cons_append, treeName, ih]

end Format

namespace Path

open Text (Glyph)

theorem text?_named (name : List Char) :
    Segment.text? (.named (name.map Glyph.char)) = some name := by
  change (name.map Glyph.char).mapM Glyph.char? = some name
  induction name with
  | nil => rfl
  | cons c name ih =>
      rw [List.map_cons, List.mapM_cons, ih]
      rfl

theorem steps_of_isName {segments : List (List Char)} {chars : List Char}
    (runs : Text.runs (· == '/') chars = segments) (isName : ∀ segment ∈ segments, IsName segment) :
    (ofChars chars).steps = segments.map (fun segment => .named (segment.map Glyph.char)) := by
  rw [steps_ofChars, runs]
  exact List.map_congr_left fun segment inside => segment_of_isName (isName segment inside)

/-- What a text without separators adds to the segments of a path, where it is no name. -/
theorem steps_of_not_isName {name : List Char} (noSlash : '/' ∉ name) (noName : ¬IsName name) :
    (ofChars name).steps.filter (· != .here) = [] ∨
      (ofChars name).steps.filter (· != .here) = [.parent] := by
  by_cases empty : name = []
  · exact Or.inl (empty ▸ rfl)
  · by_cases here : name = ['.']
    · exact Or.inl (here ▸ by decide)
    · by_cases parent : name = ['.', '.']
      · exact Or.inr (parent ▸ by decide)
      · exact absurd ⟨empty, noSlash, here, parent⟩ noName

/-- The segments of a directory below a root stay, and those of a last name come behind them. -/
theorem segments_join {directory name : List Char} {front later : List (List Char)}
    {segment : List Char} (root : Path) (relative : directory.head? ≠ some '/')
    (noSlash : '/' ∉ name) (runs : Text.runs (· == '/') directory = front ++ segment :: later)
    (isName : ∀ other ∈ front ++ segment :: later, IsName other) :
    ∃ before, ((root.join (ofChars directory)).join (ofChars name)).segments =
      before ++ .named (segment.map Glyph.char) ::
        (later.map (fun other => .named (other.map Glyph.char)) ++
          (ofChars name).steps.filter (· != .here)) := by
  have directoryRelative : (ofChars directory).isAbsolute = false := by
    rw [isAbsolute_ofChars]
    exact beq_eq_false_iff_ne.mpr relative
  have steps : ((root.join (ofChars directory)).join (ofChars name)).steps =
      (root.steps ++ front.map (fun other => .named (other.map Glyph.char))) ++
        .named (segment.map Glyph.char) ::
          (later.map (fun other => .named (other.map Glyph.char)) ++ (ofChars name).steps) := by
    rw [steps_join (isRelative_of_noSlash noSlash), steps_join directoryRelative,
      steps_of_isName runs isName]
    simp
  obtain ⟨before, whole⟩ := exists_segments steps nofun
  refine ⟨before, ?_⟩
  rw [whole, List.filter_append]
  have kept : (later.map (fun other => Segment.named (other.map Glyph.char))).filter
      (· != .here) = later.map (fun other => .named (other.map Glyph.char)) := by
    rw [List.filter_eq_self]
    intro step inside
    obtain ⟨other, _, rfl⟩ := List.mem_map.mp inside
    rfl
  rw [kept]

theorem length_texts_le {name : List Char} (noSlash : '/' ∉ name) :
    (((ofChars name).steps.filter (· != .here)).filterMap Segment.text?).length ≤ 1 := by
  have steps : (ofChars name).steps.length ≤ 1 := by
    rw [steps_ofChars, List.length_map]
    by_cases empty : name = []
    · rw [empty]
      exact Nat.zero_le 1
    · rw [runs_of_noSlash empty noSlash]
      exact Nat.le_refl 1
  calc (((ofChars name).steps.filter (· != .here)).filterMap Segment.text?).length
      ≤ ((ofChars name).steps.filter (· != .here)).length := List.length_filterMap_le _ _
    _ ≤ (ofChars name).steps.length := List.length_filter_le _ _
    _ ≤ 1 := steps

theorem isName_of_extension {path : Path} {name : List Char} {before : List Segment}
    (noSlash : '/' ∉ name)
    (whole : path.segments = before ++ .named ("tex".toList.map Glyph.char) ::
      (ofChars name).steps.filter (· != .here))
    (extended : path.extension.isSome = true) : IsName name := by
  by_contra noName
  -- The last segment would be the `tex` itself or a `..`, and neither has an extension.
  have noExtension : path.extension = none := by
    rcases steps_of_not_isName noSlash noName with nothing | parent
    · rw [nothing] at whole
      rw [extension, fileName, whole, List.getLast?_concat]
      decide
    · rw [parent] at whole
      have last : path.segments.getLast? = some .parent := by
        rw [whole, List.getLast?_append]
        rfl
      rw [extension, fileName, last]
      rfl
  rw [noExtension] at extended
  cases extended

end Path

/-- The segment behind the last `tex` of the directory decides, and behind all of it the name of
the file itself. -/
theorem Format.ofPath_join {root : Path} {directory name : List Char}
    {front later : List (List Char)} (relative : directory.head? ≠ some '/')
    (noSlash : '/' ∉ name)
    (runs : Text.runs (· == '/') directory = front ++ "tex".toList :: later)
    (isName : ∀ segment ∈ front ++ "tex".toList :: later, Path.IsName segment)
    (absent : "tex".toList ∉ later) {path : Path}
    (isPath : path = (root.join (.ofChars directory)).join (.ofChars name))
    (extended : path.extension.isSome = true) :
    ∃ tree, (later ++ [(File.ofPath path).name.toList]).head? = some tree ∧
      ofPath path = ofTree tree := by
  obtain ⟨before, whole⟩ := Path.segments_join root relative noSlash runs isName
  rw [← isPath] at whole
  have ofLater : (later.map (fun other => Path.Segment.named (other.map .char))).filterMap
      Path.Segment.text? = later := by
    rw [List.filterMap_map]
    exact (List.filterMap_congr fun other _ => Path.text?_named other).trans List.filterMap_some
  have texts : path.segments.filterMap Path.Segment.text? =
      before.filterMap Path.Segment.text? ++ "tex".toList :: (later ++
        ((Path.ofChars name).steps.filter (· != .here)).filterMap Path.Segment.text?) := by
    rw [whole, List.filterMap_append, List.filterMap_cons, Path.text?_named,
      List.filterMap_append, ofLater]
  cases later with
  | nil =>
      have isLastName := Path.isName_of_extension noSlash whole extended
      have ofName : ((Path.ofChars name).steps.filter (· != .here)).filterMap
          Path.Segment.text? = [name] := by
        rw [Path.steps_of_isName (Path.runs_of_noSlash isLastName.present noSlash)
          (by simpa using isLastName)]
        exact congrArg Option.toList (Path.text?_named name)
      have fileName : (File.ofPath path).name.toList = name := by
        rw [File.ofPath, isPath, Path.fileName_join_name _ isLastName, Option.getD_some,
          String.toList_ofList, List.map_map]
        exact List.map_id name
      refine ⟨name, by rw [List.nil_append, fileName]; rfl, ?_⟩
      rw [ofPath, texts, ofName, List.nil_append, treeName_append _ List.not_mem_nil]
  | cons tree rest =>
      -- What the entry adds is last, so it cannot be the segment before another one.
      refine ⟨tree, rfl, ?_⟩
      have atMostOne := Path.length_texts_le noSlash
      generalize ((Path.ofChars name).steps.filter (· != .here)).filterMap Path.Segment.text? =
        last at texts atMostOne
      have stillAbsent : "tex".toList ∉ (tree :: (rest ++ last)).dropLast := by
        intro inside
        rw [← List.cons_append] at inside
        cases last with
        | nil =>
            rw [List.append_nil] at inside
            exact absent ((List.dropLast_sublist _).subset inside)
        | cons text others =>
            obtain rfl : others = [] := List.length_eq_zero_iff.mp
              (Nat.le_zero.mp (Nat.le_of_succ_le_succ atMostOne))
            rw [List.dropLast_concat] at inside
            exact absent inside
      rw [ofPath, texts, List.cons_append, treeName_append _ stillAbsent]

/-! ### Files of a listing -/

namespace Listing

variable {root : Path} {lines : List (List Char)} {text : String} {line directory : List Char}
  {file : File}

/-- An entry that stands before any other header. -/
def IsNextEntry (lines : List (List Char)) (name : List Char) : Prop :=
  ∃ between line behind, lines = between ++ line :: behind ∧
    (∀ other ∈ between, ∀ directory, Line.read other ≠ .header directory) ∧
    Line.read line = .entry name

/-- An entry that stands behind the header of the directory, before any other header. -/
def StandsIn (lines : List (List Char)) (directory name : List Char) : Prop :=
  ∃ before header behind, lines = before ++ header :: behind ∧
    Line.read header = .header directory ∧ IsNextEntry behind name

/-- The file is in the index of the listing, and an entry in the directory stands for it. -/
structure IndexedFrom (root : Path) (text : String) (directory : List Char) (file : File) :
    Prop where
  indexed : file ∈ (index root text).files
  standsIn : ∃ name, StandsIn (Text.lines text.toList) directory name ∧
    file = .ofPath ((root.join (.ofChars directory)).join (.ofChars name))

/-- An entry has no separators, and a directory no `.` or `..` segments. -/
def Line.IsPlain : Line → Prop
  | .ignored => True
  | .header directory =>
    ∀ segment ∈ Text.runs (· == '/') directory, segment ≠ ['.'] ∧ segment ≠ ['.', '.']
  | .entry name => '/' ∉ name

instance (line : Line) : Decidable line.IsPlain :=
  match line with
  | .ignored => inferInstanceAs (Decidable True)
  | .header _ => inferInstanceAs (Decidable (∀ _ ∈ _, _))
  | .entry _ => inferInstanceAs (Decidable (¬_))

def IsPlain (text : String) : Prop :=
  ∀ line ∈ Text.lines text.toList, (Line.read line).IsPlain

instance (text : String) : Decidable (IsPlain text) :=
  inferInstanceAs (Decidable (∀ line ∈ Text.lines text.toList, _))

theorem IsNextEntry.cons {name : List Char}
    (notHeader : ∀ directory, Line.read line ≠ .header directory)
    (isNext : IsNextEntry lines name) : IsNextEntry (line :: lines) name := by
  obtain ⟨between, entry, behind, rfl, noHeader, isEntry⟩ := isNext
  exact ⟨line :: between, entry, behind, rfl, List.forall_mem_cons.mpr ⟨notHeader, noHeader⟩,
    isEntry⟩

theorem StandsIn.cons {name : List Char} (line : List Char) (stands : StandsIn lines directory name) :
    StandsIn (line :: lines) directory name := by
  obtain ⟨before, header, behind, rfl, isHeader, isNext⟩ := stands
  exact ⟨line :: before, header, behind, rfl, isHeader, isNext⟩

/-- A file that is read belongs to an entry: one before the first header, or one in the directory
of a header. -/
theorem exists_entry_of_mem_filesFrom {position : Position}
    (member : file ∈ filesFrom root position lines) :
    (∃ name, IsNextEntry lines name ∧ fileOf position name = some file) ∨
    ∃ directory name, StandsIn lines directory name ∧
      fileOf ⟨root.join (.ofChars directory), isTreeDirectory directory⟩ name = some file := by
  induction lines generalizing position with
  | nil => cases member
  | cons line rest ih =>
      rw [filesFrom] at member
      cases read : Line.read line with
      | ignored =>
          rw [read] at member
          rcases ih member with ⟨name, isNext, found⟩ | ⟨directory, name, stands, found⟩
          · refine Or.inl ⟨name, isNext.cons ?_, found⟩
            rw [read]
            nofun
          · exact Or.inr ⟨directory, name, stands.cons line, found⟩
      | header directory =>
          rw [read] at member
          rcases ih member with ⟨name, isNext, found⟩ | ⟨other, name, stands, found⟩
          · exact Or.inr ⟨directory, name, ⟨[], line, rest, rfl, read, isNext⟩, found⟩
          · exact Or.inr ⟨other, name, stands.cons line, found⟩
      | entry name =>
          rw [read] at member
          rcases List.mem_append.mp member with here | later
          · exact Or.inl ⟨name, ⟨[], line, rest, rfl, nofun, read⟩, Option.mem_toList.mp here⟩
          · rcases ih later with ⟨other, isNext, found⟩ | ⟨directory, other, stands, found⟩
            · refine Or.inl ⟨other, isNext.cons ?_, found⟩
              rw [read]
              nofun
            · exact Or.inr ⟨directory, other, stands.cons line, found⟩

theorem fileOf_eq_some {position : Position} {name : List Char}
    (found : fileOf position name = some file) :
    position.wanted = true ∧
      (position.directory.join (.ofChars name)).extension.isSome = true ∧
      file = .ofPath (position.directory.join (.ofChars name)) := by
  unfold fileOf at found
  dsimp only at found
  split at found
  · rename_i counts
    obtain ⟨wanted, extended⟩ := Bool.and_eq_true_iff.mp counts
    exact ⟨wanted, extended, (Option.some.inj found).symm⟩
  · cases found

/-- Every file of an index comes from a directory in a tree, and its path has an extension. -/
theorem exists_indexedFrom (indexed : file ∈ (index root text).files) :
    (∃ directory, IndexedFrom root text directory file ∧ isTreeDirectory directory = true) ∧
      ∃ path, file = .ofPath path ∧ path.extension.isSome = true := by
  rcases exists_entry_of_mem_filesFrom (FileIndex.mem_of_mem_ofList indexed) with
    ⟨name, _, found⟩ | ⟨directory, name, stands, found⟩
  · cases (fileOf_eq_some found).1
  · obtain ⟨wanted, extended, isFile⟩ := fileOf_eq_some found
    exact ⟨⟨directory, ⟨indexed, name, stands, isFile⟩, wanted⟩, _, isFile, extended⟩

theorem StandsIn.mem {name : List Char} (stands : StandsIn lines directory name) :
    (∃ header ∈ lines, Line.read header = .header directory) ∧
      ∃ line ∈ lines, Line.read line = .entry name := by
  obtain ⟨before, header, behind, rfl, isHeader, between, line, rest, rfl, _, isEntry⟩ := stands
  exact ⟨⟨header, by simp, isHeader⟩, line, by simp, isEntry⟩

theorem IsPlain.isName (plain : IsPlain text) {header : List Char}
    (present : header ∈ Text.lines text.toList) (isHeader : Line.read header = .header directory) :
    ∀ segment ∈ Text.runs (· == '/') directory, Path.IsName segment := by
  intro segment inside
  have isPlain := plain header present
  rw [isHeader] at isPlain
  obtain ⟨notHere, notParent⟩ := isPlain segment inside
  obtain ⟨notEmpty, free, _⟩ := Text.hasRun_of_mem_runs inside
  have noSlash : '/' ∉ segment := fun isSlash => by cases free '/' isSlash
  exact ⟨notEmpty, noSlash, notHere, notParent⟩

theorem LiesBelow.relative {tree : String} {below : List Char}
    (lies : LiesBelow tree below directory) : directory.head? ≠ some '/' := by
  rw [lies.whole]
  change some 't' ≠ some '/'
  decide

/-- The segment behind the last `tex` of a directory decides for the files in it. -/
theorem IndexedFrom.format_eq (plain : IsPlain text)
    (indexedFrom : IndexedFrom root text directory file) (relative : directory.head? ≠ some '/')
    {front later : List (List Char)}
    (runs : Text.runs (· == '/') directory = front ++ "tex".toList :: later)
    (absent : "tex".toList ∉ later) :
    ∃ tree, (later ++ [file.name.toList]).head? = some tree ∧ file.format = .ofTree tree := by
  obtain ⟨indexed, name, stands, isFile⟩ := indexedFrom
  obtain ⟨⟨header, isLine, isHeader⟩, line, isEntryLine, isEntry⟩ := stands.mem
  have isName := plain.isName isLine isHeader
  rw [runs] at isName
  obtain ⟨path, ofPath, extended⟩ := (exists_indexedFrom indexed).2
  have isPath : path = (root.join (.ofChars directory)).join (.ofChars name) :=
    Option.some.inj (congrArg File.path (ofPath.symm.trans isFile))
  have noSlash := plain line isEntryLine
  rw [isEntry] at noSlash
  rw [ofPath]
  exact Format.ofPath_join relative noSlash runs isName absent isPath extended

/-- Files get the engine of the tree in which they lie, whatever the root and the directories are
called. Only a `tex` below the tree can change this: then the segment behind the last one
decides. -/
theorem format_follows_tree (root : Path) {text : String} (plain : IsPlain text) :
    (∀ file ∈ (index root text).files, ∃ directory, IndexedFrom root text directory file ∧
      ∃ engine ∈ engines, ∃ below, LiesBelow engine.1 below directory) ∧
    ∀ directory file, IndexedFrom root text directory file →
      ∀ engine ∈ engines, ∀ below, LiesBelow engine.1 below directory →
        ("tex".toList ∉ Text.runs (· == '/') below → file.format = engine.2) ∧
        ∀ front later, Text.runs (· == '/') below = front ++ "tex".toList :: later →
          "tex".toList ∉ later →
            ∃ tree, (later ++ [file.name.toList]).head? = some tree ∧
              file.format = .ofTree tree := by
  constructor
  · intro file indexed
    obtain ⟨directory, indexedFrom, isTree⟩ := (exists_indexedFrom indexed).1
    exact ⟨directory, indexedFrom, isTreeDirectory_iff.mp isTree⟩
  · intro directory file indexedFrom engine isEngine below lies
    have runs := lies.runs_eq isEngine
    constructor
    · intro noTex
      have known : ∀ engine ∈ engines, engine.1.toList ≠ "tex".toList ∧
          Format.ofTree engine.1.toList = engine.2 := by
        decide
      obtain ⟨notTex, ofTree⟩ := known engine isEngine
      have absent : "tex".toList ∉ engine.1.toList :: Text.runs (· == '/') below := by
        rw [List.mem_cons, not_or]
        exact ⟨Ne.symm notTex, noTex⟩
      obtain ⟨tree, ⟨⟩, format⟩ := indexedFrom.format_eq plain lies.relative
        (runs.trans (List.nil_append _).symm) absent
      exact format.trans ofTree
    · intro front later inBelow absent
      apply indexedFrom.format_eq plain lies.relative ?_ absent
      · exact "tex".toList :: engine.1.toList :: front
      · rw [runs, inBelow]
        rfl

def nestedListing : String :=
  "./tex/lualatex/a:\na.sty\n\n./tex/lualatex/b/tex:\nb.sty\n\n"

def nestedRoot : Path :=
  .ofString "/tex/xetex"

theorem lines_nestedListing : Text.lines nestedListing.toList =
    ["./tex/lualatex/a:".toList, "a.sty".toList, [], "./tex/lualatex/b/tex:".toList,
      "b.sty".toList, []] := by
  decide +kernel

theorem nestedListing_plain : IsPlain nestedListing := by
  rw [IsPlain, lines_nestedListing]
  decide +kernel

theorem nestedListing_first : IndexedFrom nestedRoot nestedListing "tex/lualatex/a".toList
    (.ofPath (.ofString "/tex/xetex/tex/lualatex/a/a.sty")) where
  indexed := by
    rw [index, files, lines_nestedListing]
    decide +kernel
  standsIn := by
    rw [lines_nestedListing]
    exact ⟨"a.sty".toList, ⟨[], _, _, rfl, rfl, [], _, _, rfl, nofun, rfl⟩, by decide +kernel⟩

theorem nestedListing_second : IndexedFrom nestedRoot nestedListing "tex/lualatex/b/tex".toList
    (.ofPath (.ofString "/tex/xetex/tex/lualatex/b/tex/b.sty")) where
  indexed := by
    rw [index, files, lines_nestedListing]
    decide +kernel
  standsIn := by
    rw [lines_nestedListing]
    exact ⟨"b.sty".toList, ⟨["./tex/lualatex/a:".toList, "a.sty".toList, []], _, _, rfl, rfl, [],
      _, _, rfl, nofun, rfl⟩, by decide +kernel⟩

/-- The first file gets the engine of its tree; for the second one its own name stands behind the
last `tex`. -/
theorem nested_format_follows_tree :
    IsPlain nestedListing ∧
    (File.ofPath (.ofString "/tex/xetex/tex/lualatex/a/a.sty")).format = .lualatex ∧
    (File.ofPath (.ofString "/tex/xetex/tex/lualatex/b/tex/b.sty")).format =
      .ofTree "b.sty".toList := by
  have follows := (format_follows_tree nestedRoot nestedListing_plain).2
  have inTree : ("lualatex", Format.lualatex) ∈ engines := by decide
  refine ⟨nestedListing_plain, ?_, ?_⟩
  · exact (follows _ _ nestedListing_first _ inTree "/a".toList ⟨rfl, by rintro c ⟨⟩; rfl⟩).1
      (by decide +kernel)
  · obtain ⟨tree, isTree, format⟩ := (follows _ _ nestedListing_second _ inTree "/b/tex".toList
      ⟨rfl, by rintro c ⟨⟩; rfl⟩).2 ["b".toList] [] (by decide +kernel) List.not_mem_nil
    have isName : (File.ofPath (.ofString "/tex/xetex/tex/lualatex/b/tex/b.sty")).name = "b.sty" := by
      decide +kernel
    rw [isName] at isTree
    cases isTree
    exact format

/-- A subdirectory called `tex` can take the engine of its tree from a file. -/
theorem nested_tex_hides_tree :
    ¬∀ (root : Path) (text : String), root.isAbsolute = true → IsPlain text →
      ∀ directory file, IndexedFrom root text directory file →
        ∀ engine ∈ engines, ∀ below, LiesBelow engine.1 below directory →
          file.format = engine.2 := by
  intro follows
  have wrong := follows nestedRoot nestedListing (by decide +kernel) nestedListing_plain _ _
    nestedListing_second ("lualatex", .lualatex) (by decide) "/b/tex".toList
    ⟨rfl, by rintro c ⟨⟩; rfl⟩
  revert wrong
  decide +kernel

end Listing

end TexAtlas
