/-
The pattern of tagged lines. A search of a transcript for it finds the lines that report a name,
so reading a transcript is reading what such a search finds.
-/

import TexAtlas.Pattern.Parser
import TexAtlas.Proofs.Pattern.Lines
import TexAtlas.Proofs.Probe.Tagged

namespace TexAtlas.Probe

open MatchProgram (Place WholeLines lengthTo)

/-- The pattern of tagged lines as it is written. -/
def taggedLinePattern : String := "(?m)^(cmd|env):(\\S+)[ \\t\\r]*$"

def paddingClass : CharClass :=
  .union (.union (.single ' ') (.single '\t')) (.single '\r')

def paddedEnd : Pattern :=
  .sequence (.repeated (.letter paddingClass) 0 none true) (.position .lineEnd)

def nameToEnd : Pattern :=
  .sequence (.repeated (.letter (.complement .blank)) 1 none true) paddedEnd

def taggedLine : Pattern :=
  .sequence (.position .lineStart)
    (.sequence
      (.choice (Expression.literal "cmd".toList).toPattern
        (Expression.literal "env".toList).toPattern)
      (.sequence (.letter (.single ':')) nameToEnd))

theorem parse_taggedLinePattern : Pattern.parse taggedLinePattern = .ok taggedLine := rfl

def isTaggedLine (line : List Char) : Bool :=
  (taggedName commandTag line).isSome || (taggedName environmentTag line).isSome

theorem accepts_paddingClass (c : Char) : paddingClass.accepts c = isLinePadding c := by
  rw [Bool.eq_iff_iff, isLinePadding, paddingClass, CharClass.accepts, CharClass.accepts]
  simp only [Bool.or_eq_true, Pattern.accepts_single, beq_iff_eq]

/-- A name goes on up to a blank or the end of the text. -/
theorem stops_at_blank {rest : List Char} {place : Place} (isRest : place.rest = rest)
    (blank : ∀ c, rest.head? = some c → Text.isBlank c = true) :
    ∀ c, place.rest.head? = some c → (CharClass.complement .blank).accepts c = false := by
  rintro c isFirst
  rw [isRest] at isFirst
  exact congrArg not (blank c isFirst)

theorem isBlank_of_lineFeed {c : Char} (isFeed : (c == '\n') = true) : Text.isBlank c = true := by
  rw [beq_iff_eq.mp isFeed]
  decide

section

variable {line tail : List Char} {place : Place}
  (isRest : place.rest = line ++ tail) (free : ∀ c ∈ line, (c == '\n') = false)
  (ends : ∀ c, tail.head? = some c → (c == '\n') = true)

include isRest free ends

theorem endOffset_lineEnd :
    (Pattern.position .lineEnd).endOffset place =
      if line = [] then some place.offset else none := by
  have holds : Assertion.lineEnd.holds place.before place.rest.head? = true ↔ line = [] := by
    rw [Assertion.holds, isRest]
    cases line with
    | nil =>
        cases tail with
        | nil => simp
        | cons c tail => simp [beq_iff_eq.mp (ends c rfl)]
    | cons c line =>
        have apart := ne_of_beq_false (free c (List.mem_cons_self ..))
        simp [apart]
  rw [Pattern.endOffset, Pattern.ways]
  simp only [holds]
  split <;> rfl

/-- Padding and the end of the line behind it: the padding must be all that is left. -/
theorem endOffset_loop_lineEnd :
    (Pattern.loopWays (Pattern.letterWays paddingClass) true place).findSome?
        (Pattern.position .lineEnd).endOffset =
      if line.all isLinePadding then some (place.offset + line.length) else none := by
  induction line generalizing place with
  | nil =>
      have stops : ∀ c, place.rest.head? = some c → paddingClass.accepts c = false := by
        intro c isFirst
        rw [isRest] at isFirst
        rw [beq_iff_eq.mp (ends c isFirst)]
        decide
      rw [Pattern.loopWays_letter_stop stops, List.findSome?_singleton,
        endOffset_lineEnd isRest free ends]
      rfl
  | cons c line ih =>
      have later := fun other inside => free other (List.mem_cons_of_mem c inside)
      have notHere : (Pattern.position .lineEnd).endOffset place = none := by
        rw [endOffset_lineEnd isRest free ends, if_neg (List.cons_ne_nil c line)]
      cases accepts : isLinePadding c with
      | true =>
          rw [Pattern.loopWays_letter_cons isRest ((accepts_paddingClass c).trans accepts),
            List.findSome?_append, List.findSome?_singleton, notHere, Option.or_none,
            ih rfl later]
          rw [List.all_cons, accepts, Bool.true_and, List.length_cons]
          dsimp only
          rw [Nat.add_assoc, Nat.add_comm 1]
      | false =>
          have stops : ∀ c, place.rest.head? = some c → paddingClass.accepts c = false := by
            intro other isFirst
            rw [isRest] at isFirst
            cases isFirst
            exact (accepts_paddingClass c).trans accepts
          rw [Pattern.loopWays_letter_stop stops, List.findSome?_singleton, notHere,
            List.all_cons, accepts]
          rfl

theorem endOffset_paddedEnd :
    paddedEnd.endOffset place =
      if line.all isLinePadding then some (place.offset + line.length) else none := by
  have loop : (Pattern.repeated (.letter paddingClass) 0 none true).ways place =
      Pattern.loopWays (Pattern.letterWays paddingClass) true place :=
    List.flatMap_singleton _ place
  rw [paddedEnd, Pattern.endOffset_sequence, loop]
  exact endOffset_loop_lineEnd isRest free ends

/-- A name and what is left of the line behind it. -/
theorem endOffset_loop_paddedEnd :
    (Pattern.loopWays (Pattern.letterWays (.complement .blank)) true place).findSome?
        paddedEnd.endOffset =
      if (line.dropWhile (fun c => !Text.isBlank c)).all isLinePadding then
        some (place.offset + line.length)
      else none := by
  induction line generalizing place with
  | nil =>
      have stops := stops_at_blank isRest fun c isFirst => isBlank_of_lineFeed (ends c isFirst)
      rw [Pattern.loopWays_letter_stop stops, List.findSome?_singleton,
        endOffset_paddedEnd isRest free ends]
      rfl
  | cons c line ih =>
      have later := fun other inside => free other (List.mem_cons_of_mem c inside)
      cases blank : Text.isBlank c with
      | true =>
          have stops := stops_at_blank isRest (by rintro other ⟨⟩; exact blank)
          rw [Pattern.loopWays_letter_stop stops, List.findSome?_singleton,
            endOffset_paddedEnd isRest free ends,
            List.dropWhile_cons_of_neg (by rw [blank]; nofun)]
      | false =>
          have accepts : (CharClass.complement .blank).accepts c = true := congrArg not blank
          have notPadding : isLinePadding c = false := by
            cases padding : isLinePadding c with
            | false => rfl
            | true =>
                rw [isBlank_of_isLinePadding padding] at blank
                cases blank
          have notHere : paddedEnd.endOffset place = none := by
            rw [endOffset_paddedEnd isRest free ends, List.all_cons, notPadding]
            rfl
          have drops : (c :: line).dropWhile (fun c => !Text.isBlank c) =
              line.dropWhile (fun c => !Text.isBlank c) := List.dropWhile_cons_of_pos accepts
          rw [Pattern.loopWays_letter_cons isRest accepts, List.findSome?_append,
            List.findSome?_singleton, notHere, Option.or_none, ih rfl later,
            drops, List.length_cons]
          dsimp only
          rw [Nat.add_assoc, Nat.add_comm 1]

theorem endOffset_nameToEnd :
    nameToEnd.endOffset place =
      if !(line.takeWhile (fun c => !Text.isBlank c)).isEmpty &&
          (line.dropWhile (fun c => !Text.isBlank c)).all isLinePadding then
        some (place.offset + line.length)
      else none := by
  rw [nameToEnd, Pattern.endOffset_sequence, Pattern.ways_repeated_letter,
    Pattern.findSome?_flatMap]
  cases line with
  | nil =>
      have stops := stops_at_blank isRest fun c isFirst => isBlank_of_lineFeed (ends c isFirst)
      rw [Pattern.letterWays_stop stops]
      rfl
  | cons c line =>
      have later := fun other inside => free other (List.mem_cons_of_mem c inside)
      cases blank : Text.isBlank c with
      | true =>
          rw [Pattern.letterWays_stop (stops_at_blank isRest (by rintro other ⟨⟩; exact blank))]
          simp [blank]
      | false =>
          have accepts : (CharClass.complement .blank).accepts c = true := congrArg not blank
          have drops : (c :: line).dropWhile (fun c => !Text.isBlank c) =
              line.dropWhile (fun c => !Text.isBlank c) := List.dropWhile_cons_of_pos accepts
          have takes : (c :: line).takeWhile (fun c => !Text.isBlank c) =
              c :: line.takeWhile (fun c => !Text.isBlank c) := List.takeWhile_cons_of_pos accepts
          rw [Pattern.letterWays_cons isRest accepts, List.findSome?_singleton,
            endOffset_loop_paddedEnd rfl later ends, drops, takes, List.length_cons,
            List.isEmpty_cons, Bool.not_false, Bool.true_and]
          dsimp only
          rw [Nat.add_assoc, Nat.add_comm 1]

/-- The letters before the colon of a tag, the colon, a name and the end of the line. -/
theorem endOffset_tagged (tag : String) {letters : List Char}
    (isTag : tag.toList = letters ++ [':']) (oneLine : '\n' ∉ tag.toList) :
    ((Expression.literal letters).toPattern.ways place).findSome?
        (Pattern.sequence (.letter (.single ':')) nameToEnd).endOffset =
      if (taggedName tag line).isSome then some (place.offset + line.length) else none := by
  have step : ((Expression.literal letters).toPattern.ways place).findSome?
        (Pattern.sequence (.letter (.single ':')) nameToEnd).endOffset =
      ((Expression.literal tag.toList).toPattern.ways place).findSome? nameToEnd.endOffset := by
    rw [isTag, Pattern.ways_literal_append, Pattern.findSome?_flatMap]
    exact congrArg (fun f => List.findSome? f _)
      (funext fun middle => Pattern.endOffset_sequence _ _ middle)
  rw [step, Pattern.ways_literal, isRest, taggedName]
  cases after : Text.after? tag.toList line with
  | none =>
      have tagFree : ∀ c ∈ tag.toList, (c == '\n') = false := fun c inside =>
        beq_eq_false_iff_ne.mpr fun isFeed => oneLine (isFeed ▸ inside)
      have notHere : Text.after? tag.toList (line ++ tail) = none := by
        rw [Text.after?_eq_none_iff, Text.prefix_append_iff tagFree ends]
        exact Text.after?_eq_none_iff.mp after
      rw [notHere]
      rfl
  | some left =>
      have whole := Text.after?_eq_some_iff.mp after
      have here : Text.after? tag.toList (line ++ tail) = some (left ++ tail) := by
        rw [Text.after?_eq_some_iff, whole, List.append_assoc]
      have leftRest : (Pattern.passing tag.toList place).rest = left ++ tail := by
        rw [Pattern.passing_rest, isRest, whole, List.append_assoc, List.drop_left]
      have leftFree : ∀ c ∈ left, (c == '\n') = false := fun c inside =>
        free c (by rw [whole]; exact List.mem_append_right _ inside)
      rw [here, Option.isSome_some, if_pos rfl, List.findSome?_singleton,
        endOffset_nameToEnd leftRest leftFree ends, Pattern.passing_offset, whole,
        List.length_append, Nat.add_assoc]
      dsimp only
      split <;> rfl

theorem endOffset_taggedLine :
    taggedLine.endOffset place =
      if Assertion.lineStart.holds place.before place.rest.head? && isTaggedLine line then
        some (place.offset + line.length)
      else none := by
  rw [taggedLine, Pattern.endOffset_sequence, Pattern.ways]
  cases Assertion.lineStart.holds place.before place.rest.head? with
  | false => rfl
  | true =>
      rw [if_pos rfl, List.findSome?_singleton, Pattern.endOffset_sequence, Pattern.ways,
        List.findSome?_append, endOffset_tagged isRest free ends commandTag rfl (by decide),
        endOffset_tagged isRest free ends environmentTag rfl (by decide), isTaggedLine,
        Bool.true_and]
      cases (taggedName commandTag line).isSome <;> simp

end

theorem wholeLines_taggedLine :
    WholeLines (lengthTo fun place => (taggedLine.ways place).head?) isTaggedLine where
  inside := by
    intro place c isBefore notFeed
    obtain ⟨tail, isRest, free, ends⟩ := Text.exists_run (· == '\n') place.rest
    rw [Pattern.lengthTo_head, endOffset_taggedLine isRest free ends]
    simp [Assertion.holds, isBefore, notFeed]
  atStart := by
    intro place isStart
    obtain ⟨tail, isRest, free, ends⟩ := Text.exists_run (· == '\n') place.rest
    have holds : Assertion.lineStart.holds place.before place.rest.head? = true := by
      rcases isStart with nothing | feed
      · rw [nothing]
        rfl
      · rw [feed]
        rfl
    rw [Pattern.lengthTo_head, endOffset_taggedLine isRest free ends, holds, Bool.true_and]
    split
    · exact congrArg some (Nat.add_sub_cancel_left ..)
    · rfl
  present := rfl

/-- A search finds the tagged lines. -/
theorem matchesIn_taggedLine (text : List Char) :
    taggedLine.program.matchesIn text = (Text.rawLines text).filter isTaggedLine := by
  rw [Pattern.matchesIn_program _ rfl, wholeLines_taggedLine.matchesBy_eq (Or.inl rfl)]

theorem filterMap_filter_of_isSome {items : List (List Char)} {keeps : List Char → Bool}
    {f : List Char → Option String} (kept : ∀ item, (f item).isSome = true → keeps item = true) :
    (items.filter keeps).filterMap f = items.filterMap f := by
  rw [List.filterMap_filter]
  refine List.filterMap_congr fun item _ => ?_
  cases found : f item with
  | none => simp
  | some value => rw [kept item (by rw [found]; rfl), if_pos rfl]

/-- The names under a tag are those on the lines that a search for the pattern finds. -/
theorem taggedNames_eq_search {tag : String} (isTag : tag = commandTag ∨ tag = environmentTag)
    (transcript : String) :
    taggedNames tag transcript =
      SortedNames.ofList ((taggedLine.program.matchesIn transcript.toList).filterMap
        (taggedName tag)) := by
  rw [taggedNames, matchesIn_taggedLine, filterMap_filter_of_isSome]
  intro line found
  rw [isTaggedLine, Bool.or_eq_true]
  rcases isTag with rfl | rfl
  · exact Or.inl found
  · exact Or.inr found

end TexAtlas.Probe
