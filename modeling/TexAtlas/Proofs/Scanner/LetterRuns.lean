/-
What a scan with the default grammar finds: the maximal runs of ASCII letters in the sources,
less the names that are spoken for. Neither the order of the sources nor the grouping of their
parts can be told from the result.
-/

import TexAtlas.Proofs.Pattern.Runs
import TexAtlas.Proofs.Scanner

namespace TexAtlas.Scanner

variable {scanner : Scanner} {read : ByteReader} {members others : List Dependency}
  {kernel : Kernel} {reached : List Component} {symbol : String}

/-! ### Grouping the parts -/

/-- One way to unite parts. A group that has no parts of its own begins with the empty set. -/
inductive Reduction where
  | empty
  | part (names : SortedNames)
  | join (left right : Reduction)

namespace Reduction

def parts : Reduction → List SortedNames
  | empty => []
  | part names => [names]
  | join left right => left.parts ++ right.parts

def value : Reduction → SortedNames
  | empty => .empty
  | part names => names
  | join left right => left.value.union right.value

theorem mem_value (reduction : Reduction) (name : String) :
    name ∈ reduction.value.toList ↔ ∃ names ∈ reduction.parts, name ∈ names.toList := by
  induction reduction with
  | empty => simp [value, parts, SortedNames.empty]
  | part names => simp [value, parts]
  | join left right leftIh rightIh =>
      rw [value, SortedNames.mem_union, leftIh, rightIh, parts]
      simp only [List.mem_append, or_and_right, exists_or]

/-- However parts are grouped, the result is that of taking them one after the other. -/
theorem value_eq_foldl {reduction : Reduction} {sets : List SortedNames}
    (grouped : reduction.parts.Perm sets) :
    reduction.value = sets.foldl SortedNames.union .empty := by
  apply SortedNames.eq_of_mem_iff
  intro name
  rw [mem_value, SortedNames.mem_foldl_union]
  simp only [grouped.mem_iff, SortedNames.empty, List.not_mem_nil, false_or]

end Reduction

/-! ### Sources -/

/-- Files of equal name have equal paths. -/
def OnePathEach (files : List File) : Prop :=
  ∀ file ∈ files, ∀ other ∈ files, file.name = other.name → file.path = other.path

instance (files : List File) : Decidable (OnePathEach files) :=
  inferInstanceAs (Decidable (∀ file ∈ files, ∀ other ∈ files, _ → _))

theorem mem_sources (onePath : OnePathEach (members.flatMap Dependency.includes)) (file : File) :
    file ∈ sources members ↔ file ∈ members.flatMap Dependency.includes := by
  apply mem_firstOfEachName_iff
  -- A file is its name and its path, so files that share a name are one file.
  intro file isFile other isOther named
  have samePath := onePath file isFile other isOther named
  cases file
  cases other
  cases named
  cases samePath
  rfl

theorem candidates_eq_of_includes (onePath : OnePathEach (members.flatMap Dependency.includes))
    (same : ∀ file, file ∈ others.flatMap Dependency.includes ↔
      file ∈ members.flatMap Dependency.includes) :
    scanner.candidates others kernel reached = scanner.candidates members kernel reached := by
  have onePathOfOthers : OnePathEach (others.flatMap Dependency.includes) :=
    fun file isFile other isOther =>
      onePath file ((same file).mp isFile) other ((same other).mp isOther)
  apply SortedNames.eq_of_mem_iff
  intro name
  simp only [mem_candidates, mem_sources onePath, mem_sources onePathOfOthers, same]

/-! ### Names that are free -/

/-- Neither a symbol of the kernel nor one of a component that is reached. -/
def Free (kernel : Kernel) (reached : List Component) (symbol : String) : Prop :=
  symbol ∉ kernel.commands.toList ∧ symbol ∉ kernel.environments.toList ∧
    ∀ component ∈ reached,
      symbol ∉ component.commands.toList ∧ symbol ∉ component.environments.toList

instance : Decidable (Free kernel reached symbol) :=
  inferInstanceAs (Decidable (_ ∧ _ ∧ ∀ component ∈ reached, _ ∧ _))

theorem isTaken_eq_false_iff_free : isTaken kernel reached symbol = false ↔
    Free kernel reached symbol := by
  rw [isTaken_eq_false_iff, Free, ← and_assoc]
  exact and_congr not_or (forall₂_congr fun _ _ => not_or)

/-! ### Runs of letters -/

/-- The symbol stands in the text as a run of ASCII letters with no such letter beside it. -/
def LetterRun (text symbol : String) : Prop :=
  Text.HasRun (fun c => !c.isAlpha) text.toList symbol.toList

instance (text symbol : String) : Decidable (LetterRun text symbol) :=
  decidable_of_iff (symbol.toList ∈ Text.runs (fun c => !c.isAlpha) text.toList)
    Text.mem_runs_iff

def letters : CharClass :=
  .union (.ranges [('a', 'z')]) (.ranges [('A', 'Z')])

theorem accepts_letters (c : Char) : letters.accepts c = c.isAlpha := by
  have lower : (CharClass.ranges [('a', 'z')]).accepts c = c.isLower := Bool.or_false _
  have upper : (CharClass.ranges [('A', 'Z')]).accepts c = c.isUpper :=
    (Bool.or_false _).trans (Bool.decide_and _ _).symm
  calc letters.accepts c = (c.isLower || c.isUpper) := by
        rw [letters, CharClass.accepts, lower, upper]
    _ = c.isAlpha := Bool.or_comm _ _

def letterWord : Pattern :=
  .repeated (.letter letters) 1 none true

theorem parse_defaultGrammar : Pattern.parse defaultGrammar = .ok letterWord :=
  rfl

def ofLetters (read : ByteReader) : Scanner :=
  { grammar := letterWord.program, read := read }

theorem ofPattern_defaultGrammar (read : ByteReader) :
    ofPattern defaultGrammar read = .ok (ofLetters read) := by
  rw [ofPattern, parse_defaultGrammar]
  rfl

theorem mem_tokenize_ofLetters {text : String} :
    symbol ∈ ((ofLetters read).tokenize text).toList ↔ LetterRun text symbol := by
  rw [tokenize, SortedNames.mem_ofList, ofLetters, letterWord,
    Pattern.matchesIn_repeated_letter, List.mem_map]
  simp only [accepts_letters, Text.mem_runs_iff]
  constructor
  -- A match is written as a string, and is the run again when it is read as characters.
  · rintro ⟨run, isRun, rfl⟩
    rw [LetterRun, String.toList_ofList]
    exact isRun
  · exact fun isRun => ⟨symbol.toList, isRun, String.ofList_toList⟩

example : LetterRun "\\caf\u00e9s@foo2" "s" ∧ ¬LetterRun "\\caf\u00e9s@foo2" "fo" := by decide +kernel

/-- The file has a path that can be read, and the symbol as a run of letters in its source. -/
def Mentions (read : ByteReader) (symbol : String) (file : File) : Prop :=
  ∃ path bytes, file.path = some path ∧ read path = .ok bytes ∧
    LetterRun (Text.Utf8.decodeLossy bytes) symbol

theorem readSource_eq_ok_iff {file : File} {text : String} : file.readSource read = .ok text ↔
    ∃ path bytes, file.path = some path ∧ read path = .ok bytes ∧
      Text.Utf8.decodeLossy bytes = text := by
  unfold File.readSource
  cases file.path with
  | none => simp
  | some path => cases outcome : read path <;> simp [Except.map, outcome]

theorem mem_tokensOf_ofLetters {file : File} :
    symbol ∈ ((ofLetters read).tokensOf file).toList ↔ Mentions read symbol file := by
  rw [mem_tokensOf]
  simp only [mem_tokenize_ofLetters]
  constructor
  · rintro ⟨text, isText, isRun⟩
    obtain ⟨path, bytes, hasPath, isRead, rfl⟩ := readSource_eq_ok_iff.mp isText
    exact ⟨path, bytes, hasPath, isRead, isRun⟩
  · rintro ⟨path, bytes, hasPath, isRead, isRun⟩
    exact ⟨_, readSource_eq_ok_iff.mpr ⟨path, bytes, hasPath, isRead, rfl⟩, isRun⟩

theorem mem_candidates_ofLetters
    (onePath : OnePathEach (members.flatMap Dependency.includes)) :
    symbol ∈ ((ofLetters read).candidates members kernel reached).toList ↔
      (∃ member ∈ members, ∃ file ∈ member.includes, Mentions read symbol file) ∧
        Free kernel reached symbol := by
  rw [mem_candidates, ← isTaken_eq_false_iff, isTaken_eq_false_iff_free]
  refine and_congr_left' ?_
  simp only [mem_sources onePath, mem_tokensOf_ofLetters, List.mem_flatMap]
  constructor
  · rintro ⟨file, ⟨member, isMember, included⟩, mentions⟩
    exact ⟨member, isMember, file, included, mentions⟩
  · rintro ⟨member, isMember, file, included, mentions⟩
    exact ⟨file, ⟨member, isMember, included⟩, mentions⟩

/-- Where files of equal name have equal paths, the default grammar gives a scanner whose
candidates are the maximal runs of letters in the sources that can be read, less the symbols of
the kernel and of the components that are reached. The candidates are fixed by the set of the
includes, whatever their order and however often one is listed, and every way of uniting what
the single sources have leads to them. -/
theorem candidates_exact (read : ByteReader)
    (onePath : OnePathEach (members.flatMap Dependency.includes)) (kernel : Kernel)
    (reached : List Component) :
    ∃ scanner, ofPattern defaultGrammar read = .ok scanner ∧
      (∀ symbol, symbol ∈ (scanner.candidates members kernel reached).toList ↔
        (∃ member ∈ members, ∃ file ∈ member.includes, Mentions read symbol file) ∧
          Free kernel reached symbol) ∧
      (∀ others : List Dependency,
        (∀ file, file ∈ others.flatMap Dependency.includes ↔
          file ∈ members.flatMap Dependency.includes) →
        scanner.candidates others kernel reached = scanner.candidates members kernel reached) ∧
      ∀ reduction : Reduction,
        reduction.parts.Perm ((sources members).map scanner.tokensOf) →
        reduction.value.filter (fun name => !isTaken kernel reached name) =
          scanner.candidates members kernel reached := by
  refine ⟨ofLetters read, ofPattern_defaultGrammar read, ?_, ?_, ?_⟩
  · exact fun symbol => mem_candidates_ofLetters onePath
  · exact fun others same => candidates_eq_of_includes onePath same
  · intro reduction grouped
    rw [candidates, Reduction.value_eq_foldl grouped]

/-! The sample has a style with a letter that is not ASCII and a byte that is no text. Of the files
that it loads, one has no path and one cannot be read. -/

def bytesOf (text : String) : List UInt8 :=
  text.toList.map (fun c => UInt8.ofNat c.toNat)

def sampleSource : List UInt8 :=
  bytesOf "\\def\\caf" ++ [0xC3, 0xA9] ++ bytesOf "bar" ++ [0xFF] ++ bytesOf "x@foo2"

def sampleRead : ByteReader := fun path =>
  if path = .ofString "/dist/bar.sty" then .ok sampleSource
  else if path = .ofString "/dist/foo.sty" then .ok (bytesOf "\\def\\foo\\fooBar")
  else .error .notFound

def sampleStyle : File :=
  { name := "bar.sty", path := some (.ofString "/dist/bar.sty") }

def loadedStyle : File :=
  { name := "foo.sty", path := some (.ofString "/dist/foo.sty") }

def unreadableStyle : File :=
  { name := "gone.sty", path := some (.ofString "/dist/gone.sty") }

def sampleMember : Dependency :=
  { file := sampleStyle
    loaded := [loadedStyle, .unindexed "missing.sty", loadedStyle]
    discovery := .discovered }

def loadedMember : Dependency :=
  { file := loadedStyle, loaded := [unreadableStyle], discovery := .discovered }

def sampleKernel : Kernel :=
  { commands := .ofList ["def"], environments := .empty }

def sampleReached : List Component :=
  [.ofMembers [loadedMember] [] ["foo"]]

theorem sample_candidates_exact :
    OnePathEach ([sampleMember, loadedMember].flatMap Dependency.includes) ∧
    ∃ scanner, ofPattern defaultGrammar sampleRead = .ok scanner ∧
      "caf" ∈ (scanner.candidates [sampleMember, loadedMember] sampleKernel sampleReached).toList ∧
      "foo" ∉ (scanner.candidates [sampleMember, loadedMember] sampleKernel sampleReached).toList ∧
      scanner.candidates [loadedMember, sampleMember, loadedMember] sampleKernel sampleReached =
        scanner.candidates [sampleMember, loadedMember] sampleKernel sampleReached ∧
      (Reduction.join (.join .empty (.part (scanner.tokensOf unreadableStyle)))
        (.join (.join (.part (scanner.tokensOf loadedStyle)) .empty)
          (.join (.part (scanner.tokensOf (.unindexed "missing.sty")))
            (.part (scanner.tokensOf sampleStyle))))).value.filter
          (fun name => !isTaken sampleKernel sampleReached name) =
        scanner.candidates [sampleMember, loadedMember] sampleKernel sampleReached := by
  have onePath : OnePathEach ([sampleMember, loadedMember].flatMap Dependency.includes) := by
    decide +kernel
  obtain ⟨scanner, isScanner, exact, ofIncludes, ofReduction⟩ :=
    candidates_exact sampleRead onePath sampleKernel sampleReached
  refine ⟨onePath, scanner, isScanner, ?_, ?_, ?_, ?_⟩
  · refine (exact "caf").mpr ⟨⟨sampleMember, by simp, sampleStyle, List.mem_cons_self ..,
      .ofString "/dist/bar.sty", sampleSource, rfl, rfl, ?_⟩, ?_⟩
    · decide +kernel
    · decide +kernel
  · intro inside
    exact absurd ((exact "foo").mp inside).2 (by decide +kernel)
  · have kept : ∀ file ∈ [loadedMember, sampleMember, loadedMember].flatMap Dependency.includes,
        file ∈ [sampleMember, loadedMember].flatMap Dependency.includes := by decide +kernel
    have complete : ∀ file ∈ [sampleMember, loadedMember].flatMap Dependency.includes,
        file ∈ [loadedMember, sampleMember, loadedMember].flatMap Dependency.includes := by
      decide +kernel
    exact ofIncludes _ (fun file => ⟨kept file, complete file⟩)
  · have grouped : [unreadableStyle, loadedStyle, .unindexed "missing.sty", sampleStyle].Perm
        (sources [sampleMember, loadedMember]) := by decide +kernel
    exact ofReduction _ (grouped.map scanner.tokensOf)

end TexAtlas.Scanner
