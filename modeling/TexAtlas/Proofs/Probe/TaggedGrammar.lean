/-
The grammar of tagged lines. A transcript is searched for the pattern of tagged lines, every match
is cut into its tag and its name, and the names are collected under their tags. Reading a
transcript line by line comes to the same, and what it reports depends on the set of lines alone.
-/

import TexAtlas.Proofs.Probe.TaggedLine

namespace TexAtlas.Probe

variable {line : List Char} {name transcript : String} {found : List (List Char)}
  {start : Classification}

def tags : List String := [commandTag, environmentTag]

/-- Put the name of a match under its tag. -/
def Classification.note (classification : Classification) (line : List Char) : Classification :=
  match taggedName environmentTag line with
  | some name =>
    { classification with environments := classification.environments.insert name }
  | none =>
    match taggedName commandTag line with
    | some name => { classification with commands := classification.commands.insert name }
    | none => classification

/-- The names of all matches, where a name that is an environment is no command. -/
def collected (found : List (List Char)) : Classification :=
  let noted := found.foldl Classification.note .empty
  { noted with
    commands := noted.commands.filter (fun name => !noted.environments.contains name) }

theorem length_tags : ∀ tag ∈ tags, tag.toList.length = 4 := by
  decide

/-- A tagged line is cut into its tag and its name in one way only. -/
theorem existsUnique_report_iff : isTaggedLine line = true ↔
    ∃! report : String × String, report.1 ∈ tags ∧ Reports report.1 report.2 line := by
  rw [isTaggedLine, Bool.or_eq_true, Option.isSome_iff_exists, Option.isSome_iff_exists]
  simp only [taggedName_eq_some_iff]
  constructor
  · intro tagged
    have exists_report : ∃ tag ∈ tags, ∃ name, Reports tag name line := by
      rcases tagged with ⟨name, reports⟩ | ⟨name, reports⟩
      · exact ⟨commandTag, List.mem_cons_self .., name, reports⟩
      · exact ⟨environmentTag, List.mem_cons_of_mem _ (List.mem_cons_self ..), name, reports⟩
    obtain ⟨tag, isTag, name, reports⟩ := exists_report
    refine ⟨(tag, name), ⟨isTag, reports⟩, ?_⟩
    rintro ⟨other, otherName⟩ ⟨isOther, otherReports⟩
    have sameLength := (length_tags other isOther).trans (length_tags tag isTag).symm
    obtain ⟨sameTag, sameName⟩ := otherReports.unique reports sameLength
    exact Prod.ext sameTag sameName
  · rintro ⟨⟨tag, name⟩, ⟨isTag, reports⟩, _⟩
    rcases List.mem_pair.mp isTag with rfl | rfl
    · exact Or.inl ⟨name, reports⟩
    · exact Or.inr ⟨name, reports⟩

theorem mem_environments_note : name ∈ (start.note line).environments.toList ↔
    name ∈ start.environments.toList ∨ taggedName environmentTag line = some name := by
  unfold Classification.note
  cases environment : taggedName environmentTag line with
  | some other =>
      rw [SortedNames.mem_insert, Option.some.injEq, or_comm, eq_comm]
  | none =>
      cases taggedName commandTag line <;> simp

theorem mem_commands_note : name ∈ (start.note line).commands.toList ↔
    name ∈ start.commands.toList ∨ taggedName commandTag line = some name := by
  unfold Classification.note
  cases environment : taggedName environmentTag line with
  | some other =>
      -- A line that is tagged as an environment is not tagged as a command too.
      have notCommand : taggedName commandTag line ≠ some name := by
        intro command
        have sameLength := (length_tags commandTag (List.mem_cons_self ..)).trans
          (length_tags environmentTag (List.mem_cons_of_mem _ (List.mem_cons_self ..))).symm
        have sameTag := ((reports_of_taggedName command).unique
          (reports_of_taggedName environment) sameLength).1
        revert sameTag
        decide
      simp [notCommand]
  | none =>
      cases command : taggedName commandTag line with
      | some other =>
          rw [SortedNames.mem_insert, Option.some.injEq, or_comm, eq_comm]
      | none => simp

theorem mem_environments_foldl_note :
    name ∈ (found.foldl Classification.note start).environments.toList ↔
      name ∈ start.environments.toList ∨
        ∃ line ∈ found, taggedName environmentTag line = some name := by
  have each : ∀ (start : Classification) line, name ∈ (start.note line).environments.toList ↔
      name ∈ start.environments.toList ∨ taggedName environmentTag line = some name :=
    fun _ _ => mem_environments_note
  exact foldl_iff (fun noted => name ∈ noted.environments.toList) each found start

theorem mem_commands_foldl_note :
    name ∈ (found.foldl Classification.note start).commands.toList ↔
      name ∈ start.commands.toList ∨
        ∃ line ∈ found, taggedName commandTag line = some name := by
  have each : ∀ (start : Classification) line, name ∈ (start.note line).commands.toList ↔
      name ∈ start.commands.toList ∨ taggedName commandTag line = some name :=
    fun _ _ => mem_commands_note
  exact foldl_iff (fun noted => name ∈ noted.commands.toList) each found start

/-- Collecting the matches of a search is reading the transcript. -/
theorem readTagged_eq_collected (transcript : String) :
    readTagged transcript = collected (taggedLine.program.matchesIn transcript.toList) := by
  let noted := (taggedLine.program.matchesIn transcript.toList).foldl Classification.note .empty
  have environments : taggedNames environmentTag transcript = noted.environments := by
    apply SortedNames.eq_of_mem_iff
    intro name
    rw [taggedNames_eq_search (Or.inr rfl), SortedNames.mem_ofList, List.mem_filterMap,
      mem_environments_foldl_note]
    simp [Classification.empty, SortedNames.empty]
  have commands : taggedNames commandTag transcript = noted.commands := by
    apply SortedNames.eq_of_mem_iff
    intro name
    rw [taggedNames_eq_search (Or.inl rfl), SortedNames.mem_ofList, List.mem_filterMap,
      mem_commands_foldl_note]
    simp [Classification.empty, SortedNames.empty]
  rw [readTagged, environments, commands]
  rfl

/-- Neither the order of the lines nor their repetition matters. -/
theorem readTagged_congr {other : String}
    (same : ∀ line, line ∈ Text.rawLines other.toList ↔ line ∈ Text.rawLines transcript.toList) :
    readTagged other = readTagged transcript := by
  have sameNames : ∀ tag, taggedNames tag other = taggedNames tag transcript := by
    intro tag
    apply SortedNames.eq_of_mem_iff
    intro name
    rw [mem_taggedNames, mem_taggedNames, ReportedIn, ReportedIn]
    simp only [same]
  rw [readTagged, readTagged, sameNames, sameNames]

/-- Matches of the pattern are whole lines that are cut into tag and name in one way, and
collecting them reports just the names on the lines of the grammar, environments before
commands. -/
theorem readTagged_exact (transcript : String) :
    (∃ pattern, Pattern.parse taggedLinePattern = .ok pattern ∧
      pattern.program.matchesIn transcript.toList =
        (Text.rawLines transcript.toList).filter isTaggedLine ∧
      readTagged transcript = collected (pattern.program.matchesIn transcript.toList)) ∧
    (∀ line, isTaggedLine line = true ↔
      ∃! report : String × String, report.1 ∈ tags ∧ Reports report.1 report.2 line) ∧
    (∀ name, name ∈ (readTagged transcript).environments.toList ↔
      ReportedIn transcript environmentTag name) ∧
    (∀ name, name ∈ (readTagged transcript).commands.toList ↔
      ReportedIn transcript commandTag name ∧
        name ∉ (readTagged transcript).environments.toList) ∧
    ∀ other : String,
      (∀ line, line ∈ Text.rawLines other.toList ↔ line ∈ Text.rawLines transcript.toList) →
        readTagged other = readTagged transcript := by
  refine ⟨⟨taggedLine, parse_taggedLinePattern, matchesIn_taggedLine _,
    readTagged_eq_collected transcript⟩, fun _ => existsUnique_report_iff,
    fun _ => mem_environments_readTagged, ?_, fun _ => readTagged_congr⟩
  intro name
  rw [mem_commands_readTagged, mem_environments_readTagged]

def sampleTranscript : String := "(\nenv:tab\r\ncmd:foo\n cmd:no\ncmd:tab \t\n"

/-- The lines of the sample in another order, and one of them twice. -/
def shuffledTranscript : String := "cmd:foo\ncmd:tab \t\n cmd:no\nenv:tab\r\n(\ncmd:foo\n"

theorem sample_readTagged_exact :
    (∀ line, line ∈ Text.rawLines shuffledTranscript.toList ↔
      line ∈ Text.rawLines sampleTranscript.toList) ∧
    readTagged shuffledTranscript = readTagged sampleTranscript ∧
    "tab" ∈ (readTagged sampleTranscript).environments.toList ∧
    "foo" ∈ (readTagged sampleTranscript).commands.toList ∧
    "tab" ∉ (readTagged sampleTranscript).commands.toList := by
  have lines : Text.rawLines sampleTranscript.toList =
      ["(", "env:tab\r", "cmd:foo", " cmd:no", "cmd:tab \t", ""].map String.toList := by
    decide +kernel
  have shuffledLines : Text.rawLines shuffledTranscript.toList =
      ["cmd:foo", "cmd:tab \t", " cmd:no", "env:tab\r", "(", "cmd:foo", ""].map
        String.toList := by
    decide +kernel
  have kept : ∀ line ∈ Text.rawLines shuffledTranscript.toList,
      line ∈ Text.rawLines sampleTranscript.toList := by
    rw [lines, shuffledLines]
    decide +kernel
  have covered : ∀ line ∈ Text.rawLines sampleTranscript.toList,
      line ∈ Text.rawLines shuffledTranscript.toList := by
    rw [lines, shuffledLines]
    decide +kernel
  have tab : ReportedIn sampleTranscript environmentTag "tab" := by
    have noBlank : "tab".toList.any Text.isBlank = false := by decide
    have isName : IsName "tab" := ⟨by decide, fun c inside =>
      Bool.eq_false_of_not_eq_true (List.any_eq_false.mp noBlank c inside)⟩
    refine ⟨"env:tab\r".toList, ?_, isName, ['\r'], rfl, List.all_eq_true.mp (by decide)⟩
    rw [lines]
    exact List.mem_cons_of_mem _ (List.mem_cons_self ..)
  obtain ⟨_, _, environments, commands, unchanged⟩ := readTagged_exact sampleTranscript
  refine ⟨fun line => ⟨kept line, covered line⟩,
    unchanged _ fun line => ⟨kept line, covered line⟩, (environments _).mpr tab, ?_, ?_⟩
  · decide +kernel
  · exact fun isCommand => ((commands _).mp isCommand).2 ((environments _).mpr tab)

end TexAtlas.Probe
