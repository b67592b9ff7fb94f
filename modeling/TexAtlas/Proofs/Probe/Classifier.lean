/-
Questions and their answers. A classification document asks about each candidate on a line of
its own. If the engine logs an answer to every question, and otherwise no tagged lines, reading
the log gives back exactly the candidates that are defined, told apart by whether the name with
`end` in front is defined too. A log with a tagged line of its own is believed all the same.
-/

import TexAtlas.Probe.Classifier
import TexAtlas.Proofs.Probe.Tagged
import TexAtlas.Proofs.Text

namespace TexAtlas.Probe

open TexAtlas.Text (rawLines)

variable {classifier : Classifier} {file : File} {candidates : SortedNames} {text : String}

theorem Classifier.classify_of_transcript (asked : candidates.toList ≠ [])
    (answers : classifier.engine (classifier.call file candidates) = .transcript text) :
    classifier.classify file candidates = .value (.ok (readTagged text)) := by
  have present : candidates.isEmpty = false := by
    simpa [SortedNames.isEmpty] using asked
  simp [Classifier.classify, present, answers]

/-! ### Names that were not asked about -/

/-- What is confirmed are the names that the log reports. So nothing but candidates is
confirmed where the log reports nothing else, and only there. -/
theorem Classifier.confirms_candidates_iff (asked : candidates.toList ≠ [])
    (answers : classifier.engine (classifier.call file candidates) = .transcript text) :
    ∃ result, classifier.classify file candidates = .value (.ok result) ∧
      ((∀ name, name ∈ result.commands.toList ∨ name ∈ result.environments.toList →
          name ∈ candidates.toList) ↔
        ∀ name, ReportedIn text commandTag name ∨ ReportedIn text environmentTag name →
          name ∈ candidates.toList) := by
  refine ⟨_, Classifier.classify_of_transcript asked answers, ?_⟩
  simp only [mem_readTagged]

/-- An engine whose log reports a name of its own, whatever it is asked. -/
def Classifier.talkative : Classifier :=
  { engine := fun _ => .transcript "(./code.tex\ncmd:helper\n )\n", budget := ⟨1000⟩ }

theorem Classifier.talkative_confirms_candidates_iff :
    ∃ result, Classifier.talkative.classify (.unindexed "foo.sty") (.ofList ["foo"]) =
        .value (.ok result) ∧
      ((∀ name, name ∈ result.commands.toList ∨ name ∈ result.environments.toList →
          name ∈ (SortedNames.ofList ["foo"]).toList) ↔
        ∀ name, ReportedIn "(./code.tex\ncmd:helper\n )\n" commandTag name ∨
          ReportedIn "(./code.tex\ncmd:helper\n )\n" environmentTag name →
            name ∈ (SortedNames.ofList ["foo"]).toList) :=
  Classifier.confirms_candidates_iff (by decide) rfl

/-- A name that is no candidate can be confirmed. -/
theorem Classifier.confirms_other_name :
    ¬∀ (classifier : Classifier) (file : File) (candidates : SortedNames)
        (result : Classification),
      classifier.classify file candidates = .value (.ok result) →
        ∀ name, name ∈ result.commands.toList ∨ name ∈ result.environments.toList →
          name ∈ candidates.toList := by
  intro confirmsOnlyCandidates
  have classified : Classifier.talkative.classify (.unindexed "foo.sty") (.ofList ["foo"]) =
      .value (.ok (readTagged "(./code.tex\ncmd:helper\n )\n")) :=
    Classifier.classify_of_transcript (by decide) rfl
  have confirmed : "helper" ∈ (readTagged "(./code.tex\ncmd:helper\n )\n").commands.toList := by
    decide +kernel
  have isCandidate := confirmsOnlyCandidates _ _ _ _ classified "helper" (Or.inl confirmed)
  revert isCandidate
  decide +kernel

/-! ### The lines of a document -/

theorem rawLines_closed {lines : List String} (oneLine : ∀ line ∈ lines, '\n' ∉ line.toList) :
    rawLines (closed lines).toList = lines.map String.toList ++ [[]] := by
  have whole : (closed lines).toList =
      (lines.map String.toList).flatMap (fun line => line ++ ['\n']) := by
    rw [closed, String.toList_join, List.flatMap_map, List.flatMap_map]
    exact List.flatMap_congr fun line _ => String.toList_append
  rw [whole, Text.rawLines_flatMap]
  intro line inside
  obtain ⟨text, isLine, rfl⟩ := List.mem_map.mp inside
  exact oneLine text isLine

theorem toList_question (candidate : String) :
    (question candidate).toList =
      "\\@ifundefined\x7b".toList ++ candidate.toList ++
        ("\x7d\x7b \x7d\x7b\\@ifundefined\x7bend".toList ++ candidate.toList ++
          ("\x7d\x7b\\wlog\x7bcmd:".toList ++ candidate.toList ++
            ("\x7d\x7d\x7b\\wlog\x7benv:".toList ++ candidate.toList ++
              "\x7d\x7d\x7d".toList))) := by
  simp [question, command, braced]

theorem question_injective {candidate other : String}
    (same : (question candidate).toList = (question other).toList) : candidate = other := by
  have sameLength := congrArg List.length same
  rw [toList_question, toList_question] at same
  simp only [toList_question, List.length_append] at sameLength
  rw [List.append_assoc, List.append_assoc] at same
  have tails := List.append_cancel_left same
  apply String.toList_inj.mp
  exact List.append_inj_left tails (by omega)

/-- A question begins with a sign that begins no other line. -/
theorem ne_question {line : List Char} (different : line.take 2 ≠ ['\\', '@'])
    (candidate : String) : line ≠ (question candidate).toList := by
  rintro rfl
  rw [toList_question] at different
  exact different rfl

theorem question_oneLine {candidate : String} (oneLine : '\n' ∉ candidate.toList) :
    '\n' ∉ (question candidate).toList := by
  simp [toList_question, oneLine]

theorem headerLines_oneLine (stemOneLine : '\n' ∉ file.stem.toList) :
    ∀ line ∈ headerLines file, '\n' ∉ line.toList := by
  unfold headerLines
  cases file.role <;> simp [command, hostClass, stemOneLine]

theorem headerLine_ne_question {line : String} (header : line ∈ headerLines file)
    (candidate : String) : line.toList ≠ (question candidate).toList := by
  apply ne_question
  unfold headerLines at header
  split at header
  · rw [List.mem_singleton.mp header]
    simp [command]
  · rcases List.mem_pair.mp header with rfl | rfl <;> simp [command]

/-- The questions of a document are its candidates, in their order. -/
theorem rawLines_classificationDocument (stemOneLine : '\n' ∉ file.stem.toList)
    (oneLine : ∀ candidate ∈ candidates.toList, '\n' ∉ candidate.toList) :
    rawLines (classificationDocument file candidates).toList =
      (headerLines file).map String.toList ++
        ["\\makeatletter".toList, "\\begin\x7bdocument\x7d".toList] ++
        candidates.toList.map (fun candidate => (question candidate).toList) ++
        ["\\end\x7bdocument\x7d".toList, []] := by
  rw [classificationDocument, rawLines_closed]
  · simp [command, List.map_map, Function.comp_def]
  · intro line inside
    simp only [List.mem_append, List.mem_map, List.mem_cons, List.not_mem_nil, or_false] at inside
    rcases inside with ((header | rfl | rfl) | ⟨candidate, isCandidate, rfl⟩) | rfl
    · exact headerLines_oneLine stemOneLine line header
    · decide
    · decide
    · exact question_oneLine (oneLine candidate isCandidate)
    · decide

theorem question_mem_document_iff (stemOneLine : '\n' ∉ file.stem.toList)
    (oneLine : ∀ candidate ∈ candidates.toList, '\n' ∉ candidate.toList) (name : String) :
    (question name).toList ∈ rawLines (classificationDocument file candidates).toList ↔
      name ∈ candidates.toList := by
  rw [rawLines_classificationDocument stemOneLine oneLine]
  simp only [List.mem_append, List.mem_map, List.mem_cons, List.not_mem_nil, or_false]
  constructor
  · rintro (((⟨line, header, same⟩ | same | same) | ⟨candidate, isCandidate, same⟩) | same | same)
    · exact absurd same (headerLine_ne_question header name)
    · exact absurd same.symm (ne_question (by decide) name)
    · exact absurd same.symm (ne_question (by decide) name)
    · rwa [← question_injective same]
    · exact absurd same.symm (ne_question (by decide) name)
    · exact absurd same.symm (ne_question (by decide) name)
  · exact fun isCandidate => Or.inl (Or.inr ⟨name, isCandidate, rfl⟩)

/-- The lines of a text that was closed line by line, where the lines themselves may be cut. -/
theorem rawLines_closed_cut (lines : List String) :
    rawLines (closed lines).toList =
      lines.flatMap (fun line => rawLines line.toList) ++ [[]] := by
  induction lines with
  | nil => rfl
  | cons line lines ih =>
      have first : (closed (line :: lines)).toList =
          line.toList ++ '\n' :: (closed lines).toList := by
        simp [closed, String.join_cons]
      rw [first, Text.rawLines_append, ih, List.flatMap_cons, List.append_assoc]

/-- A candidate stands in its question four times. -/
theorem length_question_lines {candidate : String} (severalLines : '\n' ∈ candidate.toList) :
    5 ≤ (rawLines (question candidate).toList).length := by
  have somewhere : 0 < candidate.toList.countP (· == '\n') :=
    List.countP_pos_iff.mpr ⟨'\n', severalLines, beq_self_eq_true '\n'⟩
  rw [rawLines, Text.length_cutAt, toList_question]
  simp only [List.countP_append]
  omega

/-- The line behind the header and behind which the questions are. -/
def beginLine : String := command "begin" "document"

theorem beginLine_ne_header {line : String} (header : line ∈ headerLines file) :
    line.toList ≠ beginLine.toList := by
  intro same
  have sameStart := congrArg (List.take 2) same
  revert sameStart
  unfold headerLines at header
  split at header
  · rw [List.mem_singleton.mp header]
    simp [command, beginLine]
  · rcases List.mem_pair.mp header with rfl | rfl <;> simp [command, beginLine]

/-- Where less than five names are asked about, a document says which, even if there were files
and candidates with names of several lines. -/
theorem candidates_of_document {other : File} {asked : SortedNames}
    (stemOneLine : '\n' ∉ other.stem.toList)
    (oneLine : ∀ candidate ∈ asked.toList, '\n' ∉ candidate.toList)
    (few : asked.toList.length < 5)
    (same : classificationDocument file candidates = classificationDocument other asked) :
    candidates = asked := by
  -- The line that begins the document stands there once, the questions behind it.
  have notBefore : beginLine.toList ∉
      (headerLines other).map String.toList ++ ["\\makeatletter".toList] := by
    intro inside
    rcases List.mem_append.mp inside with header | here
    · obtain ⟨line, isHeader, isBegin⟩ := List.mem_map.mp header
      exact beginLine_ne_header isHeader isBegin
    · revert here
      decide
  have notBehind : beginLine.toList ∉ asked.toList.map (fun name => (question name).toList) ++
      ["\\end\x7bdocument\x7d".toList, []] := by
    intro inside
    rcases List.mem_append.mp inside with isQuestion | here
    · obtain ⟨name, _, isBegin⟩ := List.mem_map.mp isQuestion
      exact ne_question (by decide) name isBegin.symm
    · revert here
      decide
  have lines := congrArg (fun document => rawLines document.toList) same.symm
  have cutLines : rawLines (classificationDocument file candidates).toList =
      ((headerLines file).flatMap (fun line => rawLines line.toList) ++
        ["\\makeatletter".toList]) ++ beginLine.toList ::
      (candidates.toList.flatMap (fun name => rawLines (question name).toList) ++
        ["\\end\x7bdocument\x7d".toList, []]) := by
    have single : ∀ line ∈ ["\\makeatletter", beginLine, command "end" "document"],
        rawLines line.toList = [line.toList] := by
      decide
    rw [classificationDocument, rawLines_closed_cut]
    simp only [List.flatMap_append, List.flatMap_cons, List.flatMap_nil, List.flatMap_map]
    rw [single _ (by simp), single (command "begin" "document") (by simp [beginLine]),
      single _ (by simp)]
    simp [beginLine, command]
  have wholeLines : rawLines (classificationDocument other asked).toList =
      ((headerLines other).map String.toList ++ ["\\makeatletter".toList]) ++
        beginLine.toList :: (asked.toList.map (fun name => (question name).toList) ++
          ["\\end\x7bdocument\x7d".toList, []]) := by
    rw [rawLines_classificationDocument stemOneLine oneLine]
    simp [beginLine, command]
  rw [cutLines, wholeLines, List.append_cons_inj_of_notMem notBefore notBehind] at lines
  have questions := List.append_cancel_right lines.2.2
  have eachOneLine : ∀ name ∈ candidates.toList, '\n' ∉ name.toList := by
    intro name member severalLines
    obtain ⟨before, after, isSplit⟩ := List.append_of_mem member
    have tooMany := length_question_lines severalLines
    have counted := congrArg List.length questions
    rw [isSplit, List.flatMap_append, List.flatMap_cons, List.length_map, List.length_append,
      List.length_append] at counted
    omega
  have plain : candidates.toList.flatMap (fun name => rawLines (question name).toList) =
      candidates.toList.map (fun name => (question name).toList) := by
    rw [List.map_eq_flatMap]
    exact List.flatMap_congr fun name member =>
      Text.rawLines_of_oneLine (question_oneLine (eachOneLine name member))
  rw [plain, List.map_inj_right fun _ _ => question_injective] at questions
  cases candidates
  cases asked
  cases questions
  rfl

/-! ### Logs that answer -/

/-- The tag for a name that is defined. It counts as an environment when the name with `end`
in front is defined as well. -/
def IsTagOf (defined : Set String) (name tag : String) : Prop :=
  name ∈ defined ∧
    (tag = commandTag ∧ "end" ++ name ∉ defined ∨ tag = environmentTag ∧ "end" ++ name ∈ defined)

/-- A log answers the lines of a document in their order: a question about a defined name by a
tagged line, other questions and other lines by nothing. In between there may be any lines that
begin with no tag. -/
inductive Answers (defined : Set String) : List (List Char) → List (List Char) → Prop where
  | done : Answers defined [] []
  | unasked {line : List Char} {document log : List (List Char)} :
      (∀ candidate, line ≠ (question candidate).toList) →
      Answers defined document log → Answers defined (line :: document) log
  | silent {candidate : String} {document log : List (List Char)} :
      candidate ∉ defined →
      Answers defined document log →
      Answers defined ((question candidate).toList :: document) log
  | tagged {candidate tag : String} {padding : List Char} {document log : List (List Char)} :
      IsTagOf defined candidate tag → (∀ c ∈ padding, isLinePadding c = true) →
      Answers defined document log →
      Answers defined ((question candidate).toList :: document)
        ((tag.toList ++ candidate.toList ++ padding) :: log)
  | other {line : List Char} {document log : List (List Char)} :
      ¬commandTag.toList <+: line → ¬environmentTag.toList <+: line →
      Answers defined document log → Answers defined document (line :: log)

variable {defined : Set String} {name tag : String} {document log : List (List Char)}

theorem IsTagOf.isTag (isTagOf : IsTagOf defined name tag) :
    tag = commandTag ∨ tag = environmentTag := by
  rcases isTagOf.2 with ⟨command, _⟩ | ⟨environment, _⟩
  · exact Or.inl command
  · exact Or.inr environment

theorem IsTagOf.unique {other : String} (isTagOf : IsTagOf defined name tag)
    (isOther : IsTagOf defined name other) : tag = other := by
  rcases isTagOf.2 with ⟨rfl, isCommand⟩ | ⟨rfl, isEnvironment⟩ <;>
    rcases isOther.2 with ⟨rfl, otherIsCommand⟩ | ⟨rfl, otherIsEnvironment⟩
  · rfl
  · exact absurd otherIsEnvironment isCommand
  · exact absurd isEnvironment otherIsCommand
  · rfl

theorem isTagOf_commandTag :
    IsTagOf defined name commandTag ↔ name ∈ defined ∧ "end" ++ name ∉ defined := by
  have different : commandTag ≠ environmentTag := by decide
  simp [IsTagOf, different]

theorem isTagOf_environmentTag :
    IsTagOf defined name environmentTag ↔ name ∈ defined ∧ "end" ++ name ∈ defined := by
  have different : environmentTag ≠ commandTag := by decide
  simp [IsTagOf, different]

theorem tag_length (isTag : tag = commandTag ∨ tag = environmentTag) : tag.toList.length = 4 := by
  rcases isTag with rfl | rfl <;> rfl

/-- The lines of a log that answers report the defined names that were asked about. -/
theorem Answers.reports_iff (answers : Answers defined document log)
    (names : ∀ candidate, (question candidate).toList ∈ document → IsName candidate)
    (isTag : tag = commandTag ∨ tag = environmentTag) :
    (∃ line ∈ log, Reports tag name line) ↔
      (question name).toList ∈ document ∧ IsTagOf defined name tag := by
  induction answers with
  | done => simp
  | @unasked line document log unasked _ ih =>
      have notAsked : (question name).toList ≠ line := (unasked name).symm
      rw [ih (fun other inside => names other (List.mem_cons_of_mem _ inside)), List.mem_cons]
      simp [notAsked]
  | @silent candidate document log undefined _ ih =>
      rw [ih (fun other inside => names other (List.mem_cons_of_mem _ inside)), List.mem_cons]
      constructor
      · exact fun ⟨asked, isTagOf⟩ => ⟨Or.inr asked, isTagOf⟩
      · rintro ⟨same | asked, isTagOf⟩
        · rw [question_injective same] at isTagOf
          exact absurd isTagOf.1 undefined
        · exact ⟨asked, isTagOf⟩
  | @tagged candidate otherTag padding document log isTagOf isPadding _ ih =>
      have isName := names candidate (List.mem_cons_self ..)
      have reports : Reports otherTag candidate
          (otherTag.toList ++ candidate.toList ++ padding) :=
        ⟨isName, padding, rfl, isPadding⟩
      rw [List.exists_mem_cons_iff, List.mem_cons,
        ih (fun other inside => names other (List.mem_cons_of_mem _ inside))]
      constructor
      · rintro (here | ⟨asked, isTagOfName⟩)
        · obtain ⟨rfl, rfl⟩ := here.unique reports
            ((tag_length isTag).trans (tag_length isTagOf.isTag).symm)
          exact ⟨Or.inl rfl, isTagOf⟩
        · exact ⟨Or.inr asked, isTagOfName⟩
      · rintro ⟨same | asked, isTagOfName⟩
        · obtain rfl := question_injective same
          obtain rfl := isTagOfName.unique isTagOf
          exact Or.inl reports
        · exact Or.inr ⟨asked, isTagOfName⟩
  | @other line document log noCommand noEnvironment _ ih =>
      have silent : ¬Reports tag name line := by
        rintro ⟨_, padding, rfl, _⟩
        rw [List.append_assoc] at noCommand noEnvironment
        rcases isTag with rfl | rfl
        · exact noCommand (List.prefix_append _ _)
        · exact noEnvironment (List.prefix_append _ _)
      rw [List.exists_mem_cons_iff, ih names]
      simp [silent]

/-- A name made of ASCII letters. -/
def IsLetterWord (name : String) : Prop :=
  name ≠ "" ∧ ∀ c ∈ name.toList, c.isAlpha = true

instance : DecidablePred IsLetterWord := fun name =>
  -- The characters of the name are looked at, not all characters that there are.
  @instDecidableAnd _ _ inferInstance (List.decidableBAll _ name.toList)

theorem isBlank_of_isAlpha {c : Char} (letter : c.isAlpha = true) : Text.isBlank c = false := by
  have inRange : 65 ≤ c.toNat ∧ c.toNat ≤ 90 ∨ 97 ≤ c.toNat ∧ c.toNat ≤ 122 := by
    rcases Bool.or_eq_true_iff.mp letter with upper | lower
    · exact Or.inl (of_decide_eq_true upper)
    · obtain ⟨least, greatest⟩ := Bool.and_eq_true_iff.mp lower
      exact Or.inr ⟨of_decide_eq_true least, of_decide_eq_true greatest⟩
  simp [Text.isBlank, Text.blankRanges]
  omega

theorem IsLetterWord.isName (letters : IsLetterWord name) : IsName name :=
  ⟨letters.1, fun c inside => isBlank_of_isAlpha (letters.2 c inside)⟩

theorem IsLetterWord.oneLine (letters : IsLetterWord name) : '\n' ∉ name.toList := by
  intro inside
  have letter := letters.2 '\n' inside
  revert letter
  decide

/-- Where the log answers the document, just the defined candidates are confirmed, each as what
it is. -/
theorem Classifier.classify_answered (stemOneLine : '\n' ∉ file.stem.toList)
    (letters : ∀ candidate ∈ candidates.toList, IsLetterWord candidate)
    (transcribed : classifier.engine (classifier.call file candidates) = .transcript text)
    (answers : Answers defined (rawLines (classificationDocument file candidates).toList)
      (rawLines text.toList)) :
    ∃ result, classifier.classify file candidates = .value (.ok result) ∧
      (∀ name, name ∈ result.commands.toList ↔
        name ∈ candidates.toList ∧ name ∈ defined ∧ "end" ++ name ∉ defined) ∧
      (∀ name, name ∈ result.environments.toList ↔
        name ∈ candidates.toList ∧ name ∈ defined ∧ "end" ++ name ∈ defined) := by
  by_cases asked : candidates.toList = []
  · refine ⟨.empty, ?_, ?_, ?_⟩
    · simp [Classifier.classify, SortedNames.isEmpty, asked]
    · simp [asked, Classification.empty, SortedNames.empty]
    · simp [asked, Classification.empty, SortedNames.empty]
  · have oneLine : ∀ candidate ∈ candidates.toList, '\n' ∉ candidate.toList :=
      fun candidate isCandidate => (letters candidate isCandidate).oneLine
    have isQuestion := question_mem_document_iff stemOneLine oneLine
    have names : ∀ candidate,
        (question candidate).toList ∈ rawLines (classificationDocument file candidates).toList →
          IsName candidate := fun candidate inside =>
      (letters candidate ((isQuestion candidate).mp inside)).isName
    have reported : ∀ tag, tag = commandTag ∨ tag = environmentTag → ∀ name,
        ReportedIn text tag name ↔ name ∈ candidates.toList ∧ IsTagOf defined name tag := by
      intro tag isTag name
      rw [ReportedIn, answers.reports_iff names isTag, isQuestion]
    refine ⟨_, Classifier.classify_of_transcript asked transcribed, ?_, ?_⟩
    · intro name
      rw [mem_commands_readTagged, reported _ (Or.inl rfl), reported _ (Or.inr rfl),
        isTagOf_commandTag, isTagOf_environmentTag]
      constructor
      · exact And.left
      · exact fun isCommand => ⟨isCommand, fun isEnvironment => isCommand.2.2 isEnvironment.2.2⟩
    · intro name
      rw [mem_environments_readTagged, reported _ (Or.inr rfl), isTagOf_environmentTag]

/-- An engine whose log answers the questions about four names, among other lines. -/
def Classifier.answering : Classifier :=
  { engine := fun _ =>
      .transcript "(./code.tex\ncmd:endfoo\n cmd:indented\ncmd:fo\nenv:foo\r\n )\n"
    budget := ⟨1000⟩ }

/-- Of `end`, `endfoo`, `fo` and `foo` all but the first are defined, so that `foo` is an
environment. -/
theorem Classifier.answering_classify_answered :
    ∃ result, Classifier.answering.classify (.unindexed "foo.sty")
        (.ofList ["foo", "end", "fo", "endfoo"]) = .value (.ok result) ∧
      (∀ name, name ∈ result.commands.toList ↔ name = "endfoo" ∨ name = "fo") ∧
      (∀ name, name ∈ result.environments.toList ↔ name = "foo") := by
  have candidates : (SortedNames.ofList ["foo", "end", "fo", "endfoo"]).toList =
      ["end", "endfoo", "fo", "foo"] := by
    decide +kernel
  have letters : ∀ candidate ∈ (SortedNames.ofList ["foo", "end", "fo", "endfoo"]).toList,
      IsLetterWord candidate := by
    decide +kernel
  have document : rawLines (classificationDocument (.unindexed "foo.sty")
      (.ofList ["foo", "end", "fo", "endfoo"])).toList =
        ["\\documentclass\x7barticle\x7d".toList, "\\usepackage\x7bfoo\x7d".toList,
          "\\makeatletter".toList, "\\begin\x7bdocument\x7d".toList,
          (question "end").toList, (question "endfoo").toList, (question "fo").toList,
          (question "foo").toList, "\\end\x7bdocument\x7d".toList, []] := by
    rw [rawLines_classificationDocument (by decide +kernel)
      (fun name isCandidate => (letters name isCandidate).oneLine), candidates]
    rfl
  have log : rawLines
      "(./code.tex\ncmd:endfoo\n cmd:indented\ncmd:fo\nenv:foo\r\n )\n".toList =
        ["(./code.tex".toList, commandTag.toList ++ "endfoo".toList ++ [],
          " cmd:indented".toList, commandTag.toList ++ "fo".toList ++ [],
          environmentTag.toList ++ "foo".toList ++ ['\r'], " )".toList, []] := by
    decide +kernel
  have answers : Answers {"endfoo", "fo", "foo"}
      (rawLines (classificationDocument (.unindexed "foo.sty")
        (.ofList ["foo", "end", "fo", "endfoo"])).toList)
      (rawLines "(./code.tex\ncmd:endfoo\n cmd:indented\ncmd:fo\nenv:foo\r\n )\n".toList) := by
    rw [document, log]
    apply Answers.unasked (ne_question (by decide))
    apply Answers.unasked (ne_question (by decide))
    apply Answers.unasked (ne_question (by decide))
    apply Answers.unasked (ne_question (by decide))
    apply Answers.other (by decide) (by decide)
    apply Answers.silent (by simp)
    apply Answers.tagged (isTagOf_commandTag.mpr (by simp)) (by simp)
    apply Answers.other (by decide) (by decide)
    apply Answers.tagged (isTagOf_commandTag.mpr (by simp)) (by simp)
    apply Answers.tagged (isTagOf_environmentTag.mpr (by simp)) (by simp [isLinePadding])
    apply Answers.unasked (ne_question (by decide))
    apply Answers.unasked (ne_question (by decide))
    apply Answers.other (by decide) (by decide)
    apply Answers.other (by decide) (by decide)
    exact Answers.done
  have transcribed : Classifier.answering.engine (Classifier.answering.call (.unindexed "foo.sty")
      (.ofList ["foo", "end", "fo", "endfoo"])) = .transcript
        "(./code.tex\ncmd:endfoo\n cmd:indented\ncmd:fo\nenv:foo\r\n )\n" := rfl
  obtain ⟨result, classified, commands, environments⟩ :=
    Classifier.classify_answered (by decide +kernel) letters transcribed answers
  refine ⟨result, classified, ?_, ?_⟩
  · intro name
    rw [commands, candidates]
    constructor
    · rintro ⟨_, rfl | rfl | rfl, noEnd⟩
      · exact Or.inl rfl
      · exact Or.inr rfl
      · simp at noEnd
    · rintro (rfl | rfl) <;> simp
  · intro name
    rw [environments, candidates]
    constructor
    · rintro ⟨_, rfl | rfl | rfl, hasEnd⟩
      · simp at hasEnd
      · simp at hasEnd
      · rfl
    · rintro rfl
      simp

end TexAtlas.Probe
