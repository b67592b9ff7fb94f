/-
The names of files in a table. A run names a file by its longest beginning with a known extension,
and a search for the pattern of file names finds just these names: it takes as much of a run as it
can and gives back what does not end in an extension.
-/

import TexAtlas.Pattern.Parser
import TexAtlas.Probe.FileTable
import TexAtlas.Proofs.Pattern.Runs

namespace TexAtlas.Probe

/-! ### Names in runs -/

/-- A beginning of a run that is a file name: something and a known extension behind it. -/
def IsFileName (run name : List Char) : Prop :=
  name <+: run ∧
    ∃ stem : List Char, ∃ extension ∈ [".sty", ".tex", ".def", ".cls"],
      stem ≠ [] ∧ name = stem ++ extension.toList

/-- What a run contributes: the longest file name that begins it, if there is one. -/
def Contributes (run : List Char) : Option String → Prop
  | none => ∀ name, ¬IsFileName run name
  | some name => IsFileName run name.toList ∧
      ∀ other, IsFileName run other → other.length ≤ name.toList.length

/-- Counted from `position`, some extension in the word ends here that does not begin it. -/
def EndsAt (position : Nat) (word : List Char) (place : Nat) : Prop :=
  ∃ before rest : List Char, ∃ extension ∈ tableExtensions,
    word = before ++ extension ++ rest ∧ 0 < position + before.length ∧
      place = position + before.length + 4

theorem length_of_mem_tableExtensions {extension : List Char}
    (known : extension ∈ tableExtensions) : extension.length = 4 := by
  revert extension
  decide

theorem beginsWithExtension_iff {text : List Char} :
    beginsWithExtension text = true ↔ ∃ extension ∈ tableExtensions, extension <+: text := by
  rw [beginsWithExtension, List.any_eq_true]
  refine exists_congr fun extension => and_congr_right fun _ => ?_
  rw [Option.isSome_iff_exists]
  exact exists_congr fun rest => Text.after?_eq_some_iff.trans eq_comm

theorem endsAt_nil {position place : Nat} : ¬EndsAt position [] place := by
  rintro ⟨before, rest, extension, known, whole, _⟩
  have empty : extension = [] := by simp_all
  have length := length_of_mem_tableExtensions known
  rw [empty] at length
  cases length

theorem endsAt_cons {position place : Nat} {c : Char} {word : List Char} :
    EndsAt position (c :: word) place ↔
      (0 < position ∧ beginsWithExtension (c :: word) = true ∧ place = position + 4) ∨
        EndsAt (position + 1) word place := by
  rw [beginsWithExtension_iff]
  constructor
  · rintro ⟨before, rest, extension, known, whole, later, rfl⟩
    cases before with
    | nil => exact Or.inl ⟨later, ⟨extension, known, rest, whole.symm⟩, rfl⟩
    | cons _ before =>
        cases whole
        refine Or.inr ⟨before, rest, extension, known, rfl, by omega, ?_⟩
        rw [List.length_cons]
        omega
  · rintro (⟨later, ⟨extension, known, rest, whole⟩, rfl⟩ | ⟨before, rest, extension, known,
      rfl, later, rfl⟩)
    · exact ⟨[], rest, extension, known, whole.symm, later, rfl⟩
    · refine ⟨c :: before, rest, extension, known, rfl, ?_, ?_⟩
      · rw [List.length_cons]
        omega
      · rw [List.length_cons]
        omega

/-- The search finds the last place where an extension ends. -/
theorem lastExtensionEnd_spec (position : Nat) (word : List Char) :
    (lastExtensionEnd position word = none → ∀ place, ¬EndsAt position word place) ∧
    (∀ found, lastExtensionEnd position word = some found →
      EndsAt position word found ∧ ∀ place, EndsAt position word place → place ≤ found) := by
  induction word generalizing position with
  | nil =>
      constructor
      · exact fun _ _ => endsAt_nil
      · intro found impossible
        cases impossible
  | cons c word ih =>
      obtain ⟨noneLater, someLater⟩ := ih (position + 1)
      unfold lastExtensionEnd
      cases later : lastExtensionEnd (position + 1) word with
      | some found =>
          obtain ⟨ends, last⟩ := someLater found later
          refine ⟨nofun, ?_⟩
          rintro _ ⟨⟩
          refine ⟨endsAt_cons.mpr (Or.inr ends), ?_⟩
          intro place endsAtPlace
          rcases endsAt_cons.mp endsAtPlace with ⟨_, _, rfl⟩ | endsLater
          · obtain ⟨before, _, _, _, _, _, rfl⟩ := ends
            omega
          · exact last place endsLater
      | none =>
          have notLater := noneLater later
          by_cases here : 0 < position ∧ beginsWithExtension (c :: word) = true
          · simp only [here, decide_true, Bool.and_self, if_true]
            refine ⟨nofun, ?_⟩
            rintro _ ⟨⟩
            refine ⟨endsAt_cons.mpr (Or.inl ⟨here.1, here.2, rfl⟩), ?_⟩
            intro place endsAtPlace
            rcases endsAt_cons.mp endsAtPlace with ⟨_, _, rfl⟩ | endsLater
            · exact Nat.le_refl _
            · exact absurd endsLater (notLater place)
          · have notHere : (decide (0 < position) && beginsWithExtension (c :: word)) = false := by
              simpa [Bool.and_eq_false_iff, not_and] using here
            simp only [notHere]
            refine ⟨fun _ place endsAtPlace => ?_, fun _ impossible => by cases impossible⟩
            rcases endsAt_cons.mp endsAtPlace with ⟨later, begins, _⟩ | endsLater
            · exact here ⟨later, begins⟩
            · exact notLater place endsLater

theorem endsAt_iff_isFileName {run : List Char} {place : Nat} :
    EndsAt 0 run place ↔ ∃ name, IsFileName run name ∧ name.length = place := by
  constructor
  · rintro ⟨before, rest, extension, known, rfl, later, rfl⟩
    refine ⟨before ++ extension, ⟨List.prefix_append _ _, before, String.ofList extension, ?_,
      ?_, ?_⟩, ?_⟩
    · simp only [tableExtensions, List.mem_cons, List.not_mem_nil, or_false] at known
      rcases known with rfl | rfl | rfl | rfl <;> decide
    · rintro rfl
      cases later
    · rw [String.toList_ofList]
    · rw [List.length_append, length_of_mem_tableExtensions known]
      omega
  · rintro ⟨_, ⟨⟨rest, whole⟩, stem, extension, known, present, rfl⟩, rfl⟩
    have isKnown : extension.toList ∈ tableExtensions := List.mem_map_of_mem known
    refine ⟨stem, rest, extension.toList, isKnown, whole.symm, ?_, ?_⟩
    · have := List.length_pos_iff.mpr present
      omega
    · rw [List.length_append, length_of_mem_tableExtensions isKnown]
      omega

theorem contributes_nameInWord (run : List Char) : Contributes run (nameInWord run) := by
  obtain ⟨noneEnds, someEnds⟩ := lastExtensionEnd_spec 0 run
  unfold nameInWord
  cases found : lastExtensionEnd 0 run with
  | none =>
      intro name isName
      exact noneEnds found _ (endsAt_iff_isFileName.mpr ⟨name, isName, rfl⟩)
  | some place =>
      obtain ⟨ends, last⟩ := someEnds place found
      obtain ⟨name, isName, rfl⟩ := endsAt_iff_isFileName.mp ends
      have isTaken : run.take name.length = name := (List.prefix_iff_eq_take.mp isName.1).symm
      rw [Option.map_some, isTaken]
      refine ⟨?_, ?_⟩
      · rwa [String.toList_ofList]
      · intro other isOther
        rw [String.toList_ofList]
        exact last _ (endsAt_iff_isFileName.mpr ⟨other, isOther, rfl⟩)

theorem Contributes.unique {run : List Char} {left right : Option String}
    (contributes : Contributes run left) (other : Contributes run right) : left = right := by
  cases left with
  | none =>
      cases right with
      | none => rfl
      | some name => exact absurd other.1 (contributes _)
  | some name =>
      cases right with
      | none => exact absurd contributes.1 (other _)
      | some otherName =>
          -- Two beginnings of one run that are equally long are the same.
          have sameLength : name.toList.length = otherName.toList.length :=
            Nat.le_antisymm (other.2 _ contributes.1) (contributes.2 _ other.1)
          have same : name.toList = otherName.toList := by
            rw [List.prefix_iff_eq_take.mp contributes.1.1, sameLength,
              ← List.prefix_iff_eq_take.mp other.1.1]
          rw [String.toList_inj.mp same]

theorem contributes_iff {run : List Char} {found : Option String} :
    Contributes run found ↔ nameInWord run = found := by
  constructor
  · exact (contributes_nameInWord run).unique
  · rintro rfl
    exact contributes_nameInWord run

theorem forall₂_contributes_iff {runs : List (List Char)} {found : List (Option String)} :
    List.Forall₂ Contributes runs found ↔ runs.map nameInWord = found := by
  induction runs generalizing found with
  | nil => rw [List.forall₂_nil_left_iff, List.map_nil, eq_comm]
  | cons run runs ih =>
      rw [List.forall₂_cons_left_iff, List.map_cons]
      simp only [contributes_iff, ih]
      constructor
      · rintro ⟨_, _, rfl, rfl, rfl⟩
        rfl
      · rintro rfl
        exact ⟨_, _, rfl, rfl, rfl⟩

/-! ### The pattern of file names -/

open MatchProgram (Place WithinRuns lengthTo matchesInRuns)

/-- The pattern of file names as it is written. -/
def fileNamePattern : String := "[^\\s]+\\.(?:sty|tex|def|cls)"

def extensionPattern : Pattern :=
  .sequence (.letter (.single '.'))
    (.choiceOf (["sty".toList, "tex".toList, "def".toList, "cls".toList].map
      (fun extension => (Expression.literal extension).toPattern)))

def fileName : Pattern :=
  .sequence (.repeated (.letter (.complement .blank)) 1 none true) extensionPattern

theorem parse_fileNamePattern : Pattern.parse fileNamePattern = .ok fileName := rfl

theorem endOffset_extensionPattern (place : Place) :
    extensionPattern.endOffset place =
      if beginsWithExtension place.rest then some (place.offset + 4) else none := by
  rw [extensionPattern, Pattern.endOffset_sequence, Pattern.ways, Pattern.letterWays_single]
  cases isRest : place.rest with
  | nil => rfl
  | cons c rest =>
      by_cases isDot : c = '.'
      · subst isDot
        have lengths : ∀ text ∈ ["sty".toList, "tex".toList, "def".toList, "cls".toList],
            text.length = 3 := by
          decide
        rw [List.head?_cons, if_pos rfl, List.findSome?_singleton,
          Pattern.endOffset_choice_literals (List.cons_ne_nil _ _) lengths,
          Pattern.passing_rest, Pattern.passing_offset, isRest]
        rfl
      · have noExtension : beginsWithExtension (c :: rest) = false := by
          simp [beginsWithExtension, tableExtensions, Text.after?, Ne.symm isDot]
        simp [noExtension, isDot]

theorem notBlank_of_mem_extension {extension : List Char} {c : Char}
    (known : extension ∈ tableExtensions) (inside : c ∈ extension) : Text.isBlank c = false := by
  have free : ∀ extension ∈ tableExtensions,
      extension.all (fun c => !Text.isBlank c) = true := by
    decide
  have notBlank := List.all_eq_true.mp (free extension known) c inside
  exact (Bool.not_eq_true' _).mp notBlank

/-- Known extensions have no blanks, so what stands behind a run does not matter. -/
theorem beginsWithExtension_append {run tail : List Char}
    (ends : ∀ c, tail.head? = some c → Text.isBlank c = true) :
    beginsWithExtension (run ++ tail) = beginsWithExtension run := by
  rw [Bool.eq_iff_iff, beginsWithExtension_iff, beginsWithExtension_iff]
  refine exists_congr fun extension => and_congr_right fun known => ?_
  exact Text.prefix_append_iff (fun c inside => notBlank_of_mem_extension known inside) ends

/-- A greedy loop in a run, with an extension behind it, ends where the last extension ends. -/
theorem endOffset_loop_extension {run tail : List Char}
    (free : ∀ c ∈ run, Text.isBlank c = false)
    (ends : ∀ c, tail.head? = some c → Text.isBlank c = true)
    {place : Place} (isRest : place.rest = run ++ tail) {start position : Nat}
    (later : 0 < position) (isOffset : place.offset = start + position) :
    (Pattern.loopWays (Pattern.letterWays (.complement .blank)) true place).findSome?
        extensionPattern.endOffset =
      (lastExtensionEnd position run).map (fun length => start + length) := by
  induction run generalizing place position with
  | nil =>
      have stops : ∀ c, place.rest.head? = some c →
          (CharClass.complement .blank).accepts c = false := by
        intro c isFirst
        rw [isRest] at isFirst
        exact congrArg not (ends c isFirst)
      rw [Pattern.loopWays_letter_stop stops, List.findSome?_singleton,
        endOffset_extensionPattern, isRest, beginsWithExtension_append ends]
      rfl
  | cons c run ih =>
      have notBlank := free c (List.mem_cons_self ..)
      have accepts : (CharClass.complement .blank).accepts c = true := congrArg not notBlank
      rw [Pattern.loopWays_letter_cons isRest accepts, List.findSome?_append,
        List.findSome?_singleton,
        ih (fun other inside => free other (List.mem_cons_of_mem c inside)) rfl
          (Nat.succ_pos position) (by rw [isOffset, Nat.add_assoc]),
        endOffset_extensionPattern, isRest, beginsWithExtension_append ends]
      rw [lastExtensionEnd]
      cases lastExtensionEnd (position + 1) run with
      | some length => rfl
      | none =>
          rw [isOffset]
          cases beginsWithExtension (c :: run) <;> simp [later, Nat.add_assoc]

theorem EndsAt.behind {word : List Char} {place : Nat} (before : List Char)
    (ends : EndsAt 0 word place) : EndsAt 0 (before ++ word) (place + before.length) := by
  obtain ⟨start, rest, extension, known, rfl, later, rfl⟩ := ends
  refine ⟨before ++ start, rest, extension, known, by simp, ?_, ?_⟩
  · rw [List.length_append]
    omega
  · rw [List.length_append]
    omega

theorem EndsAt.bounds {word : List Char} {place : Nat} (ends : EndsAt 0 word place) :
    0 < place ∧ place ≤ word.length := by
  obtain ⟨start, rest, extension, known, rfl, _, rfl⟩ := ends
  rw [List.length_append, List.length_append, length_of_mem_tableExtensions known]
  omega

theorem lastExtensionEnd_zero_cons (c : Char) (run : List Char) :
    lastExtensionEnd 0 (c :: run) = lastExtensionEnd 1 run := by
  rw [lastExtensionEnd]
  cases lastExtensionEnd 1 run <;> rfl

theorem withinRuns_fileName :
    WithinRuns Text.isBlank (lengthTo fun place => (fileName.ways place).head?)
      (lastExtensionEnd 0) where
  local_eq := by
    rintro ⟨offset, before, rest⟩
    rw [Pattern.lengthTo_head, fileName, Pattern.endOffset_sequence,
      Pattern.ways_repeated_letter, Pattern.findSome?_flatMap]
    cases rest with
    | nil => rfl
    | cons c rest =>
        cases notBlank : Text.isBlank c with
        | true =>
            have stops : (CharClass.complement .blank).accepts c = false := congrArg not notBlank
            rw [Pattern.letterWays_stop (fun other isFirst => by cases isFirst; exact stops)]
            simp [notBlank, lastExtensionEnd]
        | false =>
            have accepts : (CharClass.complement .blank).accepts c = true := congrArg not notBlank
            have begins : (c :: rest).takeWhile (fun c => !Text.isBlank c) =
                c :: rest.takeWhile (fun c => !Text.isBlank c) :=
              List.takeWhile_cons_of_pos accepts
            obtain ⟨tail, whole, free, ends⟩ := Text.exists_run Text.isBlank rest
            rw [Pattern.letterWays_cons rfl accepts, List.findSome?_singleton,
              endOffset_loop_extension free ends whole Nat.one_pos rfl, begins,
              lastExtensionEnd_zero_cons, Option.map_map]
            simp [Function.comp_def]
  positive := fun run length found => ((lastExtensionEnd_spec 0 run).2 length found).1.bounds.1
  inside := fun run length found => ((lastExtensionEnd_spec 0 run).2 length found).1.bounds.2
  never := by
    intro c run nothing
    cases found : lastExtensionEnd 0 run with
    | none => rfl
    | some length =>
        have ends := ((lastExtensionEnd_spec 0 run).2 length found).1
        exact absurd (ends.behind [c]) ((lastExtensionEnd_spec 0 (c :: run)).1 nothing _)
  once := by
    intro run length found
    obtain ⟨ends, last⟩ := (lastExtensionEnd_spec 0 run).2 length found
    cases more : lastExtensionEnd 0 (run.drop length) with
    | none => rfl
    | some further =>
        -- A second match would end further on than the last extension of the run.
        have endsLater := ((lastExtensionEnd_spec 0 _).2 further more).1
        have atMost := last _
          (List.take_append_drop length run ▸ endsLater.behind (run.take length))
        rw [List.length_take_of_le ends.bounds.2] at atMost
        have positive := endsLater.bounds.1
        omega

/-- A search of a text for the pattern of file names finds the names in its words. -/
theorem matchesIn_fileName (text : List Char) :
    (fileName.program.matchesIn text).map String.ofList =
      (Text.words text).filterMap nameInWord := by
  rw [Pattern.matchesIn_program fileName rfl, withinRuns_fileName.matchesBy_eq (Nat.zero_le _),
    List.drop_zero, matchesInRuns, List.map_filterMap]
  refine List.filterMap_congr fun word _ => ?_
  rw [nameInWord, Option.map_map]
  rfl

end TexAtlas.Probe
