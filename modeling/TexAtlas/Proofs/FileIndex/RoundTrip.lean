/-
Reading a listing that was written from blocks. A block is written as a header and its entries,
one on a line, with a blank line behind them, and comments and blank lines may stand anywhere.
The reader finds the entries of the blocks again: those with an extension, in the trees of the
engines, each below the directory of its own block.
-/

import TexAtlas.Proofs.FileIndex
import TexAtlas.Proofs.FileIndex.Trees

namespace TexAtlas.Listing

/-! ### Written listings -/

/-- A segment of a directory as it can stand in a header. -/
structure IsSegment (name : List Char) : Prop extends Path.IsName name where
  oneLine : '\n' ∉ name
  noReturn : '\r' ∉ name

/-- An entry as it can stand on a line of its own: it must not look like another kind of line. -/
structure IsEntry (name : List Char) : Prop extends IsSegment name where
  notBlank : ∃ c ∈ name, Text.isBlank c = false
  notComment : name.head? ≠ some '%'
  notHeader : name.getLast? ≠ some ':'

instance (name : List Char) : Decidable (IsSegment name) :=
  decidable_of_iff (Path.IsName name ∧ '\n' ∉ name ∧ '\r' ∉ name)
    ⟨fun ⟨isName, oneLine, noReturn⟩ => ⟨isName, oneLine, noReturn⟩,
      fun ⟨isName, oneLine, noReturn⟩ => ⟨isName, oneLine, noReturn⟩⟩

theorem isEntry_iff {name : List Char} : IsEntry name ↔
    IsSegment name ∧ name.any (fun c => !Text.isBlank c) = true ∧ name.head? ≠ some '%' ∧
      name.getLast? ≠ some ':' := by
  simp only [List.any_eq_true, Bool.not_eq_true']
  constructor
  · rintro ⟨isSegment, shown, notComment, notHeader⟩
    exact ⟨isSegment, shown, notComment, notHeader⟩
  · rintro ⟨isSegment, shown, notComment, notHeader⟩
    exact ⟨isSegment, shown, notComment, notHeader⟩

instance (name : List Char) : Decidable (IsEntry name) :=
  decidable_of_iff _ isEntry_iff.symm

/-- A directory, by its segments, and the names in it. -/
structure Block where
  segments : List (List Char)
  entries : List (List Char)
  isSegment : ∀ segment ∈ segments, IsSegment segment
  isEntry : ∀ name ∈ entries, IsEntry name

namespace Block

def directory (block : Block) : List Char :=
  ['/'].intercalate block.segments

def header (block : Block) : List Char :=
  "./".toList ++ block.directory ++ [':']

def lines (block : Block) : List (List Char) :=
  block.header :: (block.entries ++ [[]])

/-- The directory is one of the trees or lies below it. -/
def InTree (block : Block) : Prop :=
  ∃ engine ∈ engines, ["tex".toList, engine.1.toList] <+: block.segments

instance (block : Block) : Decidable block.InTree :=
  inferInstanceAs (Decidable (∃ engine ∈ engines, _))

/-- The file of an entry, below the root and the directory of the block. -/
def file (root : Path) (block : Block) (name : List Char) : File :=
  { name := String.ofList name
    path := some (root.join (Path.ofChars (block.directory ++ '/' :: name))) }

/-- The files of the entries that have an extension, where the block lies in a tree. -/
def files (root : Path) (block : Block) : List File :=
  if block.InTree then
    (block.entries.filter (fun name => (Path.ofChars name).extension.isSome)).map (block.file root)
  else []

end Block

/-- A comment or a blank line. -/
def IsFiller (line : List Char) : Prop :=
  '\n' ∉ line ∧ ((∀ c ∈ line, Text.isBlank c = true) ∨ line.head? = some '%')

instance (line : List Char) : Decidable (IsFiller line) :=
  decidable_of_iff ('\n' ∉ line ∧ (line.all Text.isBlank = true ∨ line.head? = some '%'))
    (and_congr_right' (or_congr_left List.all_eq_true))

/-- Lines in their order, with any number of fillers before, between and after them. -/
inductive Padded : List (List Char) → List (List Char) → Prop where
  | nil : Padded [] []
  | line {line : List Char} {lines padded : List (List Char)} :
      Padded lines padded → Padded (line :: lines) (line :: padded)
  | filler {filler : List Char} {lines padded : List (List Char)} :
      IsFiller filler → Padded lines padded → Padded lines (filler :: padded)

/-- The text writes the blocks, one after the other. -/
def Written (blocks : List Block) (text : String) : Prop :=
  ∃ padded, Padded (blocks.flatMap Block.lines) padded ∧
    text.toList = padded.flatMap (fun line => line ++ ['\n'])

/-! ### Lines -/

section

variable {line : List Char} {lines padded : List (List Char)}

theorem Padded.oneLine (pads : Padded lines padded) (free : ∀ line ∈ lines, '\n' ∉ line) :
    ∀ line ∈ padded, '\n' ∉ line := by
  induction pads with
  | nil => exact free
  | @line line lines padded _ ih =>
      intro other inside
      rcases List.mem_cons.mp inside with rfl | later
      · exact free other (List.mem_cons_self ..)
      · exact ih (fun other inside => free other (List.mem_cons_of_mem line inside)) other later
  | @filler filler lines padded isFiller _ ih =>
      intro other inside
      rcases List.mem_cons.mp inside with rfl | later
      · exact isFiller.1
      · exact ih free other later

theorem read_ignored (ignored : (∀ c ∈ line, Text.isBlank c = true) ∨ line.head? = some '%') :
    Line.read line = .ignored := by
  rw [Line.read, if_pos]
  rw [Bool.or_eq_true, List.all_eq_true, beq_iff_eq]
  exact ignored

theorem read_filler (isFiller : IsFiller line) : Line.read (Text.dropReturn line) = .ignored := by
  apply read_ignored
  rcases isFiller.2 with blank | comment
  · refine Or.inl fun c inside => blank c ?_
    rcases Text.dropReturn_cases line with same | whole
    · rwa [same] at inside
    · rw [whole]
      exact List.mem_append_left _ inside
  · rcases Text.dropReturn_cases line with same | whole
    · rw [same]
      exact Or.inr comment
    · rw [whole] at comment
      cases start : Text.dropReturn line with
      | nil => exact Or.inl nofun
      | cons c rest =>
          rw [start] at comment
          exact Or.inr comment

theorem read_entry {name : List Char} (isEntry : IsEntry name) : Line.read name = .entry name := by
  obtain ⟨c, inside, notBlank⟩ := isEntry.notBlank
  have shown : ¬(name.all Text.isBlank || name.head? == some '%') = true := by
    rw [Bool.or_eq_true, List.all_eq_true, beq_iff_eq, not_or]
    refine ⟨fun blank => ?_, isEntry.notComment⟩
    rw [blank c inside] at notBlank
    cases notBlank
  have notHeader : ¬(name.getLast? == some ':') = true := mt beq_iff_eq.mp isEntry.notHeader
  rw [Line.read, if_neg shown, if_neg notHeader]

theorem filesFrom_padded (root : Path) (pads : Padded lines padded)
    (kept : ∀ line ∈ lines, Text.dropReturn line = line) (position : Position) :
    filesFrom root position (padded.map Text.dropReturn) = filesFrom root position lines := by
  -- A header among the lines moves the reader, so the position must be general.
  induction pads generalizing position with
  | nil => rfl
  | @line line lines padded _ ih =>
      have later := ih fun other inside => kept other (List.mem_cons_of_mem line inside)
      rw [List.map_cons, kept line (List.mem_cons_self ..), filesFrom, filesFrom]
      cases Line.read line with
      | ignored => exact later position
      | header directory => exact later _
      | entry name => exact congrArg _ (later position)
  | filler isFiller _ ih =>
      rw [List.map_cons, filesFrom, read_filler isFiller]
      exact ih kept position

end

/-! ### Blocks -/

section

variable {segments rest : List (List Char)} {segment : List Char}

theorem exists_intercalate (segment : List Char) (rest : List (List Char)) :
    ∃ tail, ['/'].intercalate (segment :: rest) = segment ++ tail ∧
      ∀ c, tail.head? = some c → c = '/' := by
  cases rest with
  | nil => exact ⟨[], by rw [List.intercalate_singleton, List.append_nil], nofun⟩
  | cons next rest =>
      refine ⟨'/' :: ['/'].intercalate (next :: rest), ?_, ?_⟩
      · rw [List.intercalate_cons_cons, List.append_assoc, List.singleton_append]
      · rintro c ⟨⟩
        rfl

theorem runs_intercalate (isSegment : ∀ segment ∈ segments, IsSegment segment) :
    Text.runs (· == '/') (['/'].intercalate segments) = segments := by
  induction segments with
  | nil => rfl
  | cons segment rest ih =>
      have isName := isSegment segment (List.mem_cons_self ..)
      have later := ih fun other inside => isSegment other (List.mem_cons_of_mem segment inside)
      have alone := Path.runs_of_noSlash isName.present isName.noSlash
      cases rest with
      | nil => rw [List.intercalate_singleton, alone]
      | cons next rest =>
          rw [List.intercalate_cons_cons, List.append_assoc, List.singleton_append,
            Text.runs_append_cons segment rfl, alone, later]
          rfl

theorem mem_intercalate {c : Char} (inside : c ∈ ['/'].intercalate segments) :
    c = '/' ∨ ∃ segment ∈ segments, c ∈ segment := by
  induction segments with
  | nil => cases inside
  | cons segment rest ih =>
      cases rest with
      | nil =>
          rw [List.intercalate_singleton] at inside
          exact Or.inr ⟨segment, List.mem_cons_self .., inside⟩
      | cons next rest =>
          rw [List.intercalate_cons_cons, List.append_assoc, List.singleton_append,
            List.mem_append, List.mem_cons] at inside
          rcases inside with here | isSlash | later
          · exact Or.inr ⟨segment, List.mem_cons_self .., here⟩
          · exact Or.inl isSlash
          · refine (ih later).imp_right ?_
            rintro ⟨other, isOther, inOther⟩
            exact ⟨other, List.mem_cons_of_mem segment isOther, inOther⟩

theorem getLast?_intercalate (present : segments ≠ [])
    (isSegment : ∀ segment ∈ segments, IsSegment segment) :
    ∃ c, (['/'].intercalate segments).getLast? = some c ∧ c ≠ '/' := by
  induction segments with
  | nil => contradiction
  | cons segment rest ih =>
      have isName := isSegment segment (List.mem_cons_self ..)
      cases rest with
      | nil =>
          rw [List.intercalate_singleton]
          refine ⟨_, List.getLast?_eq_some_getLast isName.present, ?_⟩
          exact fun isSlash => isName.noSlash (isSlash ▸ List.getLast_mem isName.present)
      | cons next rest =>
          obtain ⟨c, isLast, notSlash⟩ := ih (List.cons_ne_nil next rest)
            fun other inside => isSegment other (List.mem_cons_of_mem segment inside)
          refine ⟨c, ?_, notSlash⟩
          rw [List.intercalate_cons_cons, List.getLast?_append, isLast, Option.some_or]

end

namespace Block

variable {block : Block} {name : List Char}

theorem runs_directory (block : Block) : Text.runs (· == '/') block.directory = block.segments :=
  runs_intercalate block.isSegment

theorem head?_directory (block : Block) : block.directory.head? ≠ some '/' := by
  obtain ⟨segments, entries, isSegment, isEntry⟩ := block
  change (['/'].intercalate segments).head? ≠ some '/'
  cases segments with
  | nil => nofun
  | cons segment rest =>
      have isName := isSegment segment (List.mem_cons_self ..)
      obtain ⟨tail, whole, _⟩ := exists_intercalate segment rest
      rw [whole]
      cases segment with
      | nil => exact absurd rfl isName.present
      | cons c segment =>
          rintro ⟨⟩
          exact isName.noSlash (List.mem_cons_self ..)

theorem dropHere_directory (block : Block) :
    dropHere ("./".toList ++ block.directory) = block.directory := by
  change dropHere block.directory = block.directory
  unfold dropHere
  split
  · -- A second `./` would make a segment of its `.`.
    rename_i rest whole
    have first : ['.'] ∈ block.segments := by
      have runs := block.runs_directory
      rw [whole] at runs
      change Text.runs (· == '/') (['.'] ++ '/' :: rest) = _ at runs
      rw [Text.runs_append_cons _ rfl] at runs
      rw [← runs]
      exact List.mem_append_left _ (List.mem_cons_self ..)
    exact absurd rfl (block.isSegment _ first).notHere
  · rfl

theorem read_header (block : Block) : Line.read block.header = .header block.directory := by
  have shown : ¬(block.header.all Text.isBlank || block.header.head? == some '%') = true := by
    have notBlank : Text.isBlank '.' = false := by decide
    simp [header, notBlank]
  have isHeader : (block.header.getLast? == some ':') = true := by
    rw [header, List.getLast?_concat]
    rfl
  rw [Line.read, if_neg shown, if_pos isHeader, header, List.dropLast_concat, dropHere_directory]

theorem not_mem_header {c : Char} (notSlash : c ≠ '/') (notDot : c ≠ '.') (notColon : c ≠ ':')
    (free : ∀ segment ∈ block.segments, c ∉ segment) : c ∉ block.header := by
  intro inside
  rw [header, List.mem_append, List.mem_append] at inside
  rcases inside with (front | inDirectory) | colon
  · simp [notSlash, notDot] at front
  · rcases mem_intercalate inDirectory with isSlash | ⟨segment, isSegment, inSegment⟩
    · exact notSlash isSlash
    · exact free segment isSegment inSegment
  · exact notColon (List.mem_singleton.mp colon)

theorem lines_plain (block : Block) : ∀ line ∈ block.lines, '\n' ∉ line ∧ '\r' ∉ line := by
  intro line inside
  rw [lines, List.mem_cons, List.mem_append, List.mem_singleton] at inside
  rcases inside with rfl | isEntry | rfl
  · exact ⟨not_mem_header (by decide) (by decide) (by decide)
        fun segment isSegment => (block.isSegment segment isSegment).oneLine,
      not_mem_header (by decide) (by decide) (by decide)
        fun segment isSegment => (block.isSegment segment isSegment).noReturn⟩
  · exact ⟨(block.isEntry line isEntry).oneLine, (block.isEntry line isEntry).noReturn⟩
  · exact ⟨List.not_mem_nil, List.not_mem_nil⟩

theorem isTreeDirectory_directory (block : Block) :
    isTreeDirectory block.directory = true ↔ block.InTree := by
  rw [isTreeDirectory_iff]
  refine exists_congr fun engine => and_congr_right fun isEngine => ?_
  constructor
  · rintro ⟨below, lies⟩
    have runs := lies.runs_eq isEngine
    rw [block.runs_directory] at runs
    exact ⟨_, runs.symm⟩
  · rintro ⟨rest, whole⟩
    obtain ⟨tail, ofTree, apart⟩ := exists_intercalate engine.1.toList rest
    refine ⟨tail, ?_, apart⟩
    rw [directory, ← whole]
    change ['/'].intercalate ("tex".toList :: engine.1.toList :: rest) = _
    rw [List.intercalate_cons_cons, ofTree]
    rfl

theorem join_directory (root : Path) (inTree : block.InTree) (isEntry : IsEntry name) :
    (root.join (Path.ofChars block.directory)).join (Path.ofChars name) =
      root.join (Path.ofChars (block.directory ++ '/' :: name)) := by
  have present : block.segments ≠ [] := by
    obtain ⟨engine, _, rest, whole⟩ := inTree
    rw [← whole]
    exact List.cons_ne_nil _ _
  apply Path.join_ofChars_join root block.head?_directory
  · exact getLast?_intercalate present block.isSegment
  · exact fun isFirst => isEntry.noSlash (List.mem_of_head? isFirst)

/-- Behind the header of its block, an entry stands for its own file if it stands for one. -/
theorem fileOf_entry (root : Path) (block : Block) (isEntry : IsEntry name) :
    fileOf ⟨root.join (Path.ofChars block.directory), isTreeDirectory block.directory⟩ name =
      if block.InTree ∧ (Path.ofChars name).extension.isSome = true then some (block.file root name)
      else none := by
  have isName : Path.IsName name := isEntry.toIsName
  unfold fileOf
  dsimp only
  rw [Path.extension_join_name _ isName]
  simp only [Bool.and_eq_true, isTreeDirectory_directory]
  split
  · rename_i counts
    have ofPath : String.ofList ((name.map Text.Glyph.char).map Text.Glyph.shown) =
        String.ofList name := by
      rw [List.map_map]
      exact congrArg _ (List.map_id name)
    rw [File.ofPath, Path.fileName_join_name _ isName, Option.getD_some, ofPath,
      join_directory root counts.1 isEntry, file]
  · rfl

theorem filesFrom_entries (root : Path) (position : Position) {entries : List (List Char)}
    (isEntry : ∀ name ∈ entries, IsEntry name) (rest : List (List Char)) :
    filesFrom root position (entries ++ rest) =
      entries.filterMap (fileOf position) ++ filesFrom root position rest := by
  induction entries with
  | nil => rfl
  | cons name entries ih =>
      have later := ih fun other inside => isEntry other (List.mem_cons_of_mem name inside)
      rw [List.cons_append, filesFrom, read_entry (isEntry name (List.mem_cons_self ..))]
      dsimp only
      rw [later, ← List.append_assoc]
      refine congrArg (· ++ _) ?_
      cases found : fileOf position name <;> simp [found]

theorem filterMap_entries (root : Path) (block : Block) :
    block.entries.filterMap
        (fileOf ⟨root.join (Path.ofChars block.directory), isTreeDirectory block.directory⟩) =
      block.files root := by
  have each := List.filterMap_congr fun name inside =>
    fileOf_entry root block (block.isEntry name inside)
  rw [each, files]
  by_cases inTree : block.InTree
  · simp only [inTree, true_and, if_true]
    rw [← List.filterMap_eq_map, List.filterMap_filter]
    rfl
  · simp only [inTree, false_and, if_false]
    exact List.filterMap_none _

/-- A block contributes its files, whatever was read before it. -/
theorem filesFrom_lines (root : Path) (block : Block) (position : Position)
    (rest : List (List Char)) :
    filesFrom root position (block.lines ++ rest) =
      block.files root ++
        filesFrom root ⟨root.join (Path.ofChars block.directory), isTreeDirectory block.directory⟩
          rest := by
  have blank : Line.read [] = .ignored := rfl
  rw [lines, List.cons_append, filesFrom, read_header]
  dsimp only
  rw [List.append_assoc, filesFrom_entries root _ block.isEntry, filterMap_entries,
    List.singleton_append, filesFrom, blank]

end Block

theorem filesFrom_blocks (root : Path) (blocks : List Block) (position : Position) :
    filesFrom root position (blocks.flatMap Block.lines) = blocks.flatMap (Block.files root) := by
  induction blocks generalizing position with
  | nil => rfl
  | cons block blocks ih =>
      rw [List.flatMap_cons, List.flatMap_cons, Block.filesFrom_lines, ih]

theorem files_of_written (root : Path) {blocks : List Block} {text : String}
    (written : Written blocks text) : files root text = blocks.flatMap (Block.files root) := by
  obtain ⟨padded, pads, whole⟩ := written
  -- Without carriage returns the lines that are read are those that were written.
  have plain : ∀ line ∈ blocks.flatMap Block.lines, '\n' ∉ line ∧ '\r' ∉ line := by
    intro line inside
    obtain ⟨block, _, inBlock⟩ := List.mem_flatMap.mp inside
    exact block.lines_plain line inBlock
  have oneLine := pads.oneLine fun line inside => (plain line inside).1
  have kept : ∀ line ∈ blocks.flatMap Block.lines, Text.dropReturn line = line :=
    fun line inside => Text.dropReturn_of_noReturn (plain line inside).2
  rw [files, whole, Text.lines_flatMap oneLine, filesFrom_padded root pads kept, filesFrom_blocks]

/-- Reading a listing undoes writing it. The index holds the files of the blocks in the order of
the text, the first of each name; a name leads to that file, and the files of some roles keep
their order. -/
theorem index_written (root : Path) {blocks : List Block} {text : String}
    (written : Written blocks text) :
    (index root text).files = firstOfEachName [] (blocks.flatMap (Block.files root)) ∧
    (∀ name, (index root text).lookup name =
      (blocks.flatMap (Block.files root)).find? (fun file => file.name == name)) ∧
    ∀ roles, (index root text).ofRoles roles =
      (firstOfEachName [] (blocks.flatMap (Block.files root))).filter
        (fun file => roles.contains file.role) := by
  have ofFiles : index root text = FileIndex.ofList (blocks.flatMap (Block.files root)) := by
    rw [index, files_of_written root written]
  refine ⟨?_, ?_, ?_⟩
  · rw [ofFiles, FileIndex.files_ofList]
  · intro name
    rw [ofFiles, FileIndex.lookup_ofList]
  · intro roles
    rw [FileIndex.ofRoles, ofFiles, FileIndex.files_ofList]

/-- Three directories. The second one only looks like a tree, and the third has a name that the
first one has too. -/
def sampleBlocks : List Block :=
  [{ segments := ["tex".toList, "latex".toList, "base".toList]
     entries := ["article.cls".toList, "README".toList, "size10.clo".toList]
     isSegment := by decide +kernel
     isEntry := by decide +kernel },
   { segments := ["tex".toList, "latexextra".toList]
     entries := ["bogus.sty".toList]
     isSegment := by decide +kernel
     isEntry := by decide +kernel },
   { segments := ["tex".toList, "lualatex".toList]
     entries := ["article.cls".toList, "x.sty".toList]
     isSegment := by decide +kernel
     isEntry := by decide +kernel }]

def sampleListing : String :=
  "% names:\n./tex/latex/base:\narticle.cls\n \t\nREADME\nsize10.clo\n\n" ++
  "./tex/latexextra:\nbogus.sty\n\n%\r\n./tex/lualatex:\narticle.cls\nx.sty\n\n"

theorem sample_index_written :
    Written sampleBlocks sampleListing ∧
    (index (.ofString "/dist") sampleListing).files =
      [⟨"article.cls", some (.ofString "/dist/tex/latex/base/article.cls")⟩,
        ⟨"size10.clo", some (.ofString "/dist/tex/latex/base/size10.clo")⟩,
        ⟨"x.sty", some (.ofString "/dist/tex/lualatex/x.sty")⟩] ∧
    (index (.ofString "/dist") sampleListing).lookup "article.cls" =
      some ⟨"article.cls", some (.ofString "/dist/tex/latex/base/article.cls")⟩ ∧
    (index (.ofString "/dist") sampleListing).ofRoles [.style] =
      [⟨"x.sty", some (.ofString "/dist/tex/lualatex/x.sty")⟩] := by
  have written : Written sampleBlocks sampleListing := by
    refine ⟨["% names:", "./tex/latex/base:", "article.cls", " \t", "README", "size10.clo", "",
      "./tex/latexextra:", "bogus.sty", "", "%\r", "./tex/lualatex:", "article.cls", "x.sty",
      ""].map String.toList, ?_, by decide +kernel⟩
    exact .filler (by decide +kernel) (.line (.line (.filler (by decide +kernel) (.line (.line
      (.line (.line (.line (.line (.filler (by decide +kernel) (.line (.line (.line (.line
        .nil))))))))))))))
  obtain ⟨files, lookup, ofRoles⟩ := index_written (.ofString "/dist") written
  refine ⟨written, files.trans ?_, (lookup "article.cls").trans ?_, (ofRoles [.style]).trans ?_⟩
  · decide +kernel
  · decide +kernel
  · decide +kernel

end TexAtlas.Listing
