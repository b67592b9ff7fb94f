/-
What tagged lines report. A line reports a name under a tag if it is made of the tag, the name
and padding; then it reports nothing else. Reading a transcript collects just the reported
names.
-/

import Mathlib.Data.List.TakeWhile
import TexAtlas.Probe.Tagged
import TexAtlas.Proofs.Names

namespace TexAtlas.Probe

/-- A word that can stand on a tagged line. -/
def IsName (name : String) : Prop :=
  name ≠ "" ∧ ∀ c ∈ name.toList, Text.isBlank c = false

/-- The line is the tag, the name and padding. -/
def Reports (tag name : String) (line : List Char) : Prop :=
  IsName name ∧ ∃ padding : List Char,
    line = tag.toList ++ name.toList ++ padding ∧ ∀ c ∈ padding, isLinePadding c = true

theorem isBlank_of_isLinePadding {c : Char} (padding : isLinePadding c = true) :
    Text.isBlank c = true := by
  simp only [isLinePadding, Bool.or_eq_true, beq_iff_eq] at padding
  rcases padding with (rfl | rfl) | rfl <;> decide

variable {tag otherTag name otherName : String} {line : List Char}

theorem taggedName_of_reports (reports : Reports tag name line) :
    taggedName tag line = some name := by
  obtain ⟨⟨present, free⟩, padding, rfl, isPadding⟩ := reports
  have whole : Text.after? tag.toList (tag.toList ++ name.toList ++ padding) =
      some (name.toList ++ padding) := by
    rw [Text.after?_eq_some_iff, List.append_assoc]
  have inName : ∀ c ∈ name.toList, (!Text.isBlank c) = true := by
    intro c inside
    rw [free c inside]
    rfl
  have stops : padding.takeWhile (fun c => !Text.isBlank c) = [] := by
    cases padding with
    | nil => rfl
    | cons c padding =>
        have blank := isBlank_of_isLinePadding (isPadding c (List.mem_cons_self ..))
        simp [blank]
  have rest : padding.dropWhile (fun c => !Text.isBlank c) = padding := by
    have whole := List.takeWhile_append_dropWhile (p := fun c => !Text.isBlank c) (l := padding)
    rwa [stops, List.nil_append] at whole
  have allPadding : padding.all isLinePadding = true := List.all_eq_true.mpr isPadding
  have nameList : name.toList ≠ [] := by
    rwa [ne_eq, String.toList_eq_nil_iff]
  rw [taggedName, whole]
  simp only [List.takeWhile_append_of_pos inName, List.dropWhile_append_of_pos inName, stops, rest,
    List.append_nil, String.ofList_toList]
  simp [nameList, allPadding]

theorem reports_of_taggedName (found : taggedName tag line = some name) :
    Reports tag name line := by
  unfold taggedName at found
  cases after : Text.after? tag.toList line with
  | none =>
      rw [after] at found
      cases found
  | some rest =>
      rw [after] at found
      simp only [Option.ite_none_right_eq_some, Bool.and_eq_true, List.all_eq_true,
        Option.some.injEq] at found
      obtain ⟨⟨present, isPadding⟩, rfl⟩ := found
      refine ⟨⟨?_, ?_⟩, _, ?_, isPadding⟩
      · intro empty
        rw [← String.toList_eq_nil_iff, String.toList_ofList] at empty
        rw [empty] at present
        cases present
      · intro c inside
        rw [String.toList_ofList] at inside
        simpa using List.mem_takeWhile_imp inside
      · rw [String.toList_ofList, List.append_assoc, List.takeWhile_append_dropWhile]
        exact Text.after?_eq_some_iff.mp after

theorem taggedName_eq_some_iff : taggedName tag line = some name ↔ Reports tag name line :=
  ⟨reports_of_taggedName, taggedName_of_reports⟩

/-- Tags of one length cannot both begin a line, and a name ends where the padding begins. -/
theorem Reports.unique (reports : Reports tag name line)
    (otherReports : Reports otherTag otherName line)
    (sameLength : tag.toList.length = otherTag.toList.length) :
    tag = otherTag ∧ name = otherName := by
  have sameTag : tag = otherTag := by
    obtain ⟨_, padding, whole, _⟩ := reports
    obtain ⟨_, otherPadding, otherWhole, _⟩ := otherReports
    rw [whole, List.append_assoc, List.append_assoc] at otherWhole
    exact String.toList_inj.mp (List.append_inj_left otherWhole sameLength)
  subst sameTag
  have first := taggedName_of_reports reports
  have second := taggedName_of_reports otherReports
  exact ⟨rfl, Option.some.inj (first.symm.trans second)⟩

/-! ### Whole transcripts -/

/-- Some line of the transcript reports the name under the tag. -/
def ReportedIn (transcript tag name : String) : Prop :=
  ∃ line ∈ Text.rawLines transcript.toList, Reports tag name line

variable {transcript : String}

theorem mem_taggedNames :
    name ∈ (taggedNames tag transcript).toList ↔ ReportedIn transcript tag name := by
  simp only [taggedNames, SortedNames.mem_ofList, List.mem_filterMap, taggedName_eq_some_iff,
    ReportedIn]

theorem mem_environments_readTagged :
    name ∈ (readTagged transcript).environments.toList ↔
      ReportedIn transcript environmentTag name :=
  mem_taggedNames

theorem mem_commands_readTagged :
    name ∈ (readTagged transcript).commands.toList ↔
      ReportedIn transcript commandTag name ∧ ¬ReportedIn transcript environmentTag name := by
  have isEnvironment : (taggedNames environmentTag transcript).contains name = true ↔
      ReportedIn transcript environmentTag name :=
    List.contains_iff_mem.trans mem_taggedNames
  rw [readTagged, SortedNames.mem_filter, mem_taggedNames, Bool.not_eq_true', ← Bool.not_eq_true,
    isEnvironment]

/-- Between them, the two halves of a classification hold every reported name. -/
theorem mem_readTagged :
    name ∈ (readTagged transcript).commands.toList ∨
        name ∈ (readTagged transcript).environments.toList ↔
      ReportedIn transcript commandTag name ∨ ReportedIn transcript environmentTag name := by
  rw [mem_commands_readTagged, mem_environments_readTagged]
  by_cases environment : ReportedIn transcript environmentTag name <;> simp [environment]

end TexAtlas.Probe
