/-
What the table of a transcript lists. The table is the text behind the first heading up to a
line of asterisks; every run of it without blanks that has a beginning with a known extension
contributes the longest such beginning, and nothing else is listed.
-/

import TexAtlas.Proofs.Names
import TexAtlas.Proofs.Probe.FileNames

namespace TexAtlas.Probe

open TexAtlas.Text (rawLines dropReturn)

/-! ### The end of the table -/

/-- A line of asterisks with nothing but blanks around them. -/
def ClosingRule (line : List Char) : Prop :=
  ∃ left stars right : List Char, line = left ++ stars ++ right ∧
    (∀ c ∈ left, Text.isBlank c = true) ∧ (∀ c ∈ right, Text.isBlank c = true) ∧
    stars ≠ [] ∧ ∀ c ∈ stars, c = '*'

theorem isClosingRule_iff {line : List Char} :
    isClosingRule line = true ↔ ClosingRule line := by
  rw [isClosingRule, Bool.and_eq_true, Bool.not_eq_true', List.isEmpty_eq_false_iff,
    List.all_eq_true]
  simp only [beq_iff_eq]
  constructor
  · rintro ⟨present, asterisks⟩
    obtain ⟨left, right, whole, leftBlank, rightBlank⟩ := Text.exists_trim line
    exact ⟨left, Text.trim line, right, whole, leftBlank, rightBlank, present, asterisks⟩
  · rintro ⟨left, stars, right, rfl, leftBlank, rightBlank, present, asterisks⟩
    have free : ∀ c ∈ stars, Text.isBlank c = false := by
      intro c inside
      rw [asterisks c inside]
      decide
    rw [Text.trim_of_free leftBlank free rightBlank]
    exact ⟨present, asterisks⟩

theorem isClosingRule_eq_false_iff {line : List Char} :
    isClosingRule line = false ↔ ¬ClosingRule line := by
  rw [← isClosingRule_iff, Bool.not_eq_true]

theorem isClosingRule_dropReturn (line : List Char) :
    isClosingRule (dropReturn line) = isClosingRule line := by
  rw [isClosingRule, isClosingRule, Text.trim_dropReturn]

/-- The table that a text begins with: what stands before its first closing rule, or all of it
where there is none. -/
inductive TableOf : List Char → List Char → Prop where
  | unclosed {text : List Char} :
      (∀ line ∈ rawLines text, ¬ClosingRule line) → TableOf text text
  | closed {table rule rest : List Char} :
      table = [] ∨ table.getLast? = some '\n' → (∀ line ∈ rawLines table, ¬ClosingRule line) →
      '\n' ∉ rule → ClosingRule rule → rest = [] ∨ rest.head? = some '\n' →
      TableOf (table ++ rule ++ rest) table

private theorem oneLine_of_free {line : List Char}
    (free : ∀ c ∈ line, (c == '\n') = false) : '\n' ∉ line := by
  intro inside
  have different := free _ inside
  cases different

theorem exists_tableOf (text : List Char) : ∃ table, TableOf text table := by
  have noRule : ∀ line ∈ rawLines [], ¬ClosingRule line := by
    intro line inside
    rw [List.mem_singleton.mp inside, ← isClosingRule_iff]
    decide
  induction text using Text.piecewise (· == '\n') with
  | piece line free =>
      have oneLine := oneLine_of_free free
      by_cases isRule : ClosingRule line
      · refine ⟨[], ?_⟩
        rw [← List.append_nil line]
        exact .closed (Or.inl rfl) noRule oneLine isRule (Or.inl rfl)
      · refine ⟨line, .unclosed ?_⟩
        rw [Text.rawLines_of_oneLine oneLine]
        intro other inside
        rwa [List.mem_singleton.mp inside]
  | cut line c rest free isFeed ih =>
      obtain rfl := beq_iff_eq.mp isFeed
      have oneLine := oneLine_of_free free
      by_cases isRule : ClosingRule line
      · exact ⟨[], .closed (Or.inl rfl) noRule oneLine isRule (Or.inr rfl)⟩
      · have grows : ∀ text : List Char, (∀ line ∈ rawLines text, ¬ClosingRule line) →
            ∀ other ∈ rawLines (line ++ '\n' :: text), ¬ClosingRule other := by
          intro text noRule other inside
          rw [Text.rawLines_append, Text.rawLines_of_oneLine oneLine] at inside
          rcases List.mem_cons.mp inside with rfl | later
          · exact isRule
          · exact noRule other later
        obtain ⟨table, tableOf⟩ := ih
        cases tableOf with
        | unclosed noRule => exact ⟨_, .unclosed (grows _ noRule)⟩
        | @closed _ rule rest startsLine noRule ruleOneLine ruleIs ends =>
            have starts : (line ++ '\n' :: table).getLast? = some '\n' := by
              rw [List.getLast?_append_cons]
              rcases startsLine with rfl | last
              · rfl
              · rw [List.getLast?_cons, last, Option.getD_some]
            have closed := TableOf.closed (Or.inr starts) (grows _ noRule) ruleOneLine ruleIs ends
            rw [List.append_assoc, List.append_assoc, List.cons_append] at closed
            rw [List.append_assoc]
            exact ⟨_, closed⟩

/-- The lines before the first closing rule have the words of the table. -/
theorem TableOf.words_eq {text table : List Char} (tableOf : TableOf text table) :
    ((rawLines text).takeWhile (fun line => !isClosingRule line)).flatMap Text.words =
      Text.words table := by
  have feedIsBlank : ∀ c : Char, (c == '\n') = true → Text.isBlank c = true := by
    intro c isFeed
    rw [beq_iff_eq.mp isFeed]
    decide
  have wordsOfLines : ∀ text, (rawLines text).flatMap Text.words = Text.words text :=
    fun text => (Text.runs_eq_flatMap_cutAt feedIsBlank text).symm
  have kept : ∀ text, (∀ line ∈ rawLines text, ¬ClosingRule line) →
      ∀ line ∈ rawLines text, (!isClosingRule line) = true := by
    intro text noRule line inside
    rw [isClosingRule_eq_false_iff.mpr (noRule line inside)]
    rfl
  cases tableOf with
  | unclosed noRule => rw [List.takeWhile_eq_self_iff.mpr (kept text noRule), wordsOfLines]
  | @closed _ rule rest startsLine noRule ruleOneLine isRule ends =>
      obtain ⟨tail, ruleFirst⟩ : ∃ tail, rawLines (rule ++ rest) = rule :: tail := by
        rcases ends with rfl | feed
        · exact ⟨[], by rw [List.append_nil, Text.rawLines_of_oneLine ruleOneLine]⟩
        · obtain ⟨more, rfl⟩ := List.head?_eq_some_iff.mp feed
          exact ⟨_, by rw [Text.rawLines_append, Text.rawLines_of_oneLine ruleOneLine]; rfl⟩
      have stops : (rule :: tail).takeWhile (fun line => !isClosingRule line) = [] := by
        simp [isClosingRule_iff.mpr isRule]
      rcases startsLine with rfl | last
      · rw [List.nil_append, ruleFirst, stops]
        rfl
      · obtain ⟨start, rfl⟩ := List.getLast?_eq_some_iff.mp last
        have startNoRule : ∀ line ∈ rawLines start, ¬ClosingRule line := by
          intro line inside
          apply noRule
          rw [Text.rawLines_append]
          exact List.mem_append_left _ inside
        rw [List.append_assoc, List.append_assoc, List.singleton_append, Text.rawLines_append,
          ruleFirst, List.takeWhile_append_of_pos (kept start startNoRule), stops,
          List.append_nil, wordsOfLines]
        rw [Text.words, Text.words, Text.runs_append_cons start (by decide)]
        simp [Text.runs, Text.cutAt]

/-! ### The whole table -/

/-- A transcript lists the names that the runs of its table contribute, each where it comes
first. -/
def Lists (transcript : String) (names : List String) : Prop :=
  ∃ before behind table : List Char, ∃ runs : List (List Char), ∃ found : List (Option String),
    Text.FirstOccurrence tableHeading.toList transcript.toList before behind ∧
    TableOf behind table ∧
    Text.MaximalRuns Text.isBlank table runs ∧
    List.Forall₂ Contributes runs found ∧
    names = (found.filterMap id).eraseDups

theorem namesInLines_eq {behind table : List Char} (tableOf : TableOf behind table) :
    namesInLines (Text.lines behind) = (Text.words table).filterMap nameInWord := by
  -- A carriage return at the end of a line changes neither the rule nor the words.
  have rawly : namesInLines (Text.lines behind) =
      ((rawLines behind).takeWhile (fun line => !isClosingRule line)).flatMap
        (fun line => (Text.words line).filterMap nameInWord) := by
    apply Text.flatMap_takeWhile_lines
    · intro line
      rw [isClosingRule_dropReturn]
    · intro line
      rw [Text.words_dropReturn]
    · rfl
  rw [rawly, ← tableOf.words_eq, List.filterMap_flatMap]

/-- A table that is read by searching each of its lines with a pattern. -/
def searchedTable (pattern : Pattern) (transcript : String) : Option (List String) :=
  (Text.afterFirst? tableHeading.toList transcript.toList).map (fun table =>
    (NameSet.ofList (((Text.lines table).takeWhile (fun line => !isClosingRule line)).flatMap
      (fun line => (pattern.program.matchesIn line).map String.ofList))).toList)

theorem fileTable_eq_searchedTable (transcript : String) :
    fileTable transcript = searchedTable fileName transcript := by
  unfold fileTable searchedTable namesInLines
  simp only [matchesIn_fileName]

/-- The pattern of file names finds what is listed. A transcript without the heading lists nothing
at all; otherwise what is listed is exactly what the grammar of tables says. -/
theorem fileTable_exact (transcript : String) :
    (∃ pattern, Pattern.parse fileNamePattern = .ok pattern ∧
      fileTable transcript = searchedTable pattern transcript) ∧
    (fileTable transcript = none ↔ ¬tableHeading.toList <:+: transcript.toList) ∧
    ∀ names, fileTable transcript = some names ↔ Lists transcript names := by
  refine ⟨⟨fileName, parse_fileNamePattern, fileTable_eq_searchedTable transcript⟩, ?_⟩
  constructor
  · rw [fileTable, Option.map_eq_none_iff, Text.afterFirst?_eq_none_iff]
  · intro names
    rw [fileTable, Option.map_eq_some_iff]
    constructor
    · rintro ⟨behind, found, rfl⟩
      obtain ⟨before, first⟩ := Text.afterFirst?_eq_some_iff.mp found
      obtain ⟨table, tableOf⟩ := exists_tableOf behind
      refine ⟨before, behind, table, Text.words table, (Text.words table).map nameInWord, first,
        tableOf, Text.maximalRuns_iff.mpr rfl, ?_, ?_⟩
      · exact forall₂_contributes_iff.mpr rfl
      · rw [namesInLines_eq tableOf, NameSet.toList_ofList, List.filterMap_map]
        rfl
    · rintro ⟨before, behind, table, runs, found, first, tableOf, maximal, contribute, rfl⟩
      refine ⟨behind, Text.afterFirst?_eq_some_iff.mpr ⟨before, first⟩, ?_⟩
      have isWords : Text.words table = runs := Text.maximalRuns_iff.mp maximal
      have isFound : runs.map nameInWord = found := forall₂_contributes_iff.mp contribute
      rw [namesInLines_eq tableOf, NameSet.toList_ofList, isWords, ← isFound, List.filterMap_map]
      rfl

end TexAtlas.Probe
