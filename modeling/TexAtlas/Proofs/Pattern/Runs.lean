/-
Searches that stay within the runs of a text. Where a match depends on nothing but the run that a
place begins with, and nothing of a run matches behind its match, each run has at most one match,
and a search finds just those. A greedy repetition of a class finds the runs of its characters.
-/

import TexAtlas.Pattern.Expression
import TexAtlas.Proofs.Pattern.Layout
import TexAtlas.Proofs.Text

namespace TexAtlas.MatchProgram

variable {separates : Char → Bool} {lengthAt : Place → Option Nat}
  {taken : List Char → Option Nat} {run tail text : List Char}

/-- Matches within runs: `taken` says how many characters of a run belong to the match in it. -/
structure WithinRuns (separates : Char → Bool) (lengthAt : Place → Option Nat)
    (taken : List Char → Option Nat) : Prop where
  local_eq : ∀ place, lengthAt place = taken (place.rest.takeWhile (fun c => !separates c))
  positive : ∀ run length, taken run = some length → 0 < length
  inside : ∀ run length, taken run = some length → length ≤ run.length
  never : ∀ c run, taken (c :: run) = none → taken run = none
  once : ∀ run length, taken run = some length → taken (run.drop length) = none

/-- The match in each run that has one. -/
def matchesInRuns (separates : Char → Bool) (taken : List Char → Option Nat)
    (text : List Char) : List (List Char) :=
  (Text.runs separates text).filterMap (fun run => (taken run).map run.take)

theorem WithinRuns.taken_nil (within : WithinRuns separates lengthAt taken) : taken [] = none := by
  cases found : taken [] with
  | none => rfl
  | some length =>
      have positive := within.positive [] length found
      have inside := within.inside [] length found
      rw [List.length_nil] at inside
      omega

theorem WithinRuns.matchesInRuns_append (within : WithinRuns separates lengthAt taken)
    (free : ∀ c ∈ run, separates c = false)
    (ends : ∀ c, tail.head? = some c → separates c = true) :
    matchesInRuns separates taken (run ++ tail) =
      ((taken run).map run.take).toList ++ matchesInRuns separates taken tail := by
  by_cases empty : run = []
  · subst empty
    rw [within.taken_nil]
    rfl
  · rw [matchesInRuns, Text.runs_append_of_ends empty free ends]
    cases found : taken run <;> simp [matchesInRuns, found]

/-- A search finds the matches in the runs of what is not skipped. -/
theorem WithinRuns.matchesBy_eq (within : WithinRuns separates lengthAt taken) {offset skip : Nat}
    {before : Option Char} {afterMatch : Bool} (inside : skip ≤ text.length) :
    matchesBy lengthAt offset before skip afterMatch text =
      matchesInRuns separates taken (text.drop skip) := by
  induction text generalizing offset skip before afterMatch with
  | nil =>
      obtain rfl := Nat.le_zero.mp inside
      have none : lengthAt ⟨offset, before, []⟩ = none := by
        rw [within.local_eq]
        exact within.taken_nil
      simp [matchesBy, none, matchesInRuns, Text.runs, Text.cutAt]
  | cons c rest ih =>
      cases skip with
      | succ skip => exact ih (Nat.le_of_succ_le_succ inside)
      | zero =>
          have isLocal := within.local_eq ⟨offset, before, c :: rest⟩
          rw [List.drop_zero]
          unfold matchesBy
          rw [isLocal]
          by_cases separator : separates c = true
          · have stops : (c :: rest).takeWhile (fun c => !separates c) = [] := by
              simp [separator]
            rw [stops, within.taken_nil]
            refine (ih (Nat.zero_le _)).trans ?_
            rw [List.drop_zero, matchesInRuns, matchesInRuns,
              Text.runs_cons_of_separates separator]
          · obtain ⟨tail, whole, restFree, ends⟩ := Text.exists_run separates rest
            have begins : (c :: rest).takeWhile (fun c => !separates c) =
                c :: rest.takeWhile (fun c => !separates c) := by
              simp [separator]
            rw [begins]
            generalize rest.takeWhile (fun c => !separates c) = run at *
            subst whole
            have free : ∀ other ∈ c :: run, separates other = false :=
              List.forall_mem_cons.mpr ⟨Bool.not_eq_true _ ▸ separator, restFree⟩
            rw [← List.cons_append, within.matchesInRuns_append free ends]
            cases found : taken (c :: run) with
            | none =>
                refine (ih (Nat.zero_le _)).trans ?_
                rw [List.drop_zero, within.matchesInRuns_append restFree ends,
                  within.never c run found]
                rfl
            | some length =>
                obtain ⟨length, rfl⟩ := Nat.exists_eq_succ_of_ne_zero
                  (Nat.ne_of_gt (within.positive _ _ found))
                have atMost : length ≤ run.length :=
                  Nat.le_of_succ_le_succ (within.inside _ _ found)
                have leftFree : ∀ other ∈ run.drop length, separates other = false :=
                  fun other isOther => restFree other (List.mem_of_mem_drop isOther)
                have nothing : taken (run.drop length) = none :=
                  within.once (c :: run) _ found
                have later : matchesBy lengthAt (offset + 1) (some c) length true (run ++ tail) =
                    matchesInRuns separates taken tail := by
                  rw [ih (by rw [List.length_append]; omega),
                    List.drop_append_of_le_length atMost,
                    within.matchesInRuns_append leftFree ends, nothing]
                  rfl
                change (c :: (run ++ tail)).take (length + 1) :: _ = _
                rw [later, List.take_succ_cons, List.take_append_of_le_length atMost]
                rfl

end TexAtlas.MatchProgram

namespace TexAtlas.Pattern

open MatchProgram (Place lengthTo matchesInRuns WithinRuns)

variable {accepted : CharClass} {place : Place} {c : Char} {rest : List Char}

/-! ### Where the preferred match ends -/

/-- How many characters of the text stand before the end of the preferred match. -/
def endOffset (pattern : Pattern) (place : Place) : Option Nat :=
  (pattern.ways place).head?.map Place.offset

theorem lengthTo_head (pattern : Pattern) (place : Place) :
    lengthTo (fun place => (pattern.ways place).head?) place =
      (pattern.endOffset place).map (fun offset => offset - place.offset) := by
  rw [lengthTo, endOffset, Option.map_map]
  rfl

theorem map_findSome? {α β γ : Type} (items : List α) (found : α → Option β) (f : β → γ) :
    (items.findSome? found).map f = items.findSome? (fun item => (found item).map f) := by
  induction items with
  | nil => rfl
  | cons item items ih =>
      rw [List.findSome?_cons, List.findSome?_cons]
      cases found item with
      | none => exact ih
      | some _ => rfl

theorem endOffset_sequence (first second : Pattern) (place : Place) :
    (sequence first second).endOffset place =
      (first.ways place).findSome? second.endOffset := by
  rw [endOffset, ways, List.head?_flatMap, map_findSome?]
  rfl

theorem endOffset_choice (preferred other : Pattern) (place : Place) :
    (choice preferred other).endOffset place =
      (preferred.endOffset place).or (other.endOffset place) := by
  rw [endOffset, ways, List.head?_append, endOffset, endOffset]
  cases (preferred.ways place).head? <;> rfl

/-! ### Classes and literals -/

theorem advances_letterWays (accepted : CharClass) : Advances true (letterWays accepted) :=
  advances_ways (letter accepted)

theorem letterWays_cons (isRest : place.rest = c :: rest) (accepts : accepted.accepts c = true) :
    letterWays accepted place =
      [{ offset := place.offset + 1, before := some c, rest := rest }] := by
  simp [letterWays, isRest, accepts]

theorem letterWays_stop (stops : ∀ c, place.rest.head? = some c → accepted.accepts c = false) :
    letterWays accepted place = [] := by
  unfold letterWays
  cases isRest : place.rest with
  | nil => rfl
  | cons c rest =>
      rw [isRest] at stops
      simp [stops c rfl]

/-- A greedy loop over a class goes on with each character that the class accepts. -/
theorem loopWays_letter_cons (isRest : place.rest = c :: rest)
    (accepts : accepted.accepts c = true) :
    loopWays (letterWays accepted) true place =
      loopWays (letterWays accepted) true
        { offset := place.offset + 1, before := some c, rest := rest } ++ [place] := by
  rw [loopWays_eq (advances_letterWays accepted), letterWays_cons isRest accepts,
    List.flatMap_singleton]
  rfl

theorem loopWays_letter_stop
    (stops : ∀ c, place.rest.head? = some c → accepted.accepts c = false) :
    loopWays (letterWays accepted) true place = [place] := by
  rw [loopWays_eq (advances_letterWays accepted), letterWays_stop stops]
  rfl

/-- A class that is repeated greedily, once at least. -/
theorem ways_repeated_letter (accepted : CharClass) (place : Place) :
    (repeated (letter accepted) 1 none true).ways place =
      (letterWays accepted place).flatMap (loopWays (letterWays accepted) true) := by
  have once : timesWays (letterWays accepted) 1 place = letterWays accepted place :=
    List.flatMap_singleton' _
  exact congrArg (List.flatMap (loopWays (letterWays accepted) true)) once

theorem endOffset_loop (accepted : CharClass) (place : Place) :
    (loopWays (letterWays accepted) true place).head?.map Place.offset =
      some (place.offset + (place.rest.takeWhile accepted.accepts).length) := by
  obtain ⟨offset, before, rest⟩ := place
  induction rest generalizing offset before with
  | nil =>
      rw [loopWays_letter_stop (fun c impossible => by cases impossible)]
      rfl
  | cons c rest ih =>
      cases accepts : accepted.accepts c with
      | true =>
          have later := ih (offset + 1) (some c)
          rw [loopWays_letter_cons rfl accepts, List.head?_append,
            List.takeWhile_cons_of_pos accepts, List.length_cons]
          obtain ⟨final, found, isOffset⟩ := Option.map_eq_some_iff.mp later
          rw [found, Option.some_or, Option.map_some, isOffset, Nat.add_assoc,
            Nat.add_comm 1]
      | false =>
          have stops : (c :: rest).takeWhile accepted.accepts = [] := by
            simp [accepts]
          rw [loopWays_letter_stop (fun other isFirst => by cases isFirst; exact accepts), stops]
          rfl

/-- A run that matches as a whole. -/
def wholeRun : List Char → Option Nat
  | [] => none
  | _ :: run => some (run.length + 1)

theorem wholeRun_eq_some_iff {run : List Char} {length : Nat} :
    wholeRun run = some length ↔ run ≠ [] ∧ length = run.length := by
  cases run with
  | nil => simp [wholeRun]
  | cons c run => simp [wholeRun, eq_comm]

theorem withinRuns_repeated_letter (accepted : CharClass) :
    WithinRuns (fun c => !accepted.accepts c)
      (lengthTo fun place => ((repeated (letter accepted) 1 none true).ways place).head?)
      wholeRun where
  local_eq := by
    rintro ⟨offset, before, rest⟩
    rw [lengthTo_head, endOffset, ways_repeated_letter, List.head?_flatMap, map_findSome?]
    simp only [Bool.not_not]
    cases rest with
    | nil => rfl
    | cons c rest =>
        cases accepts : accepted.accepts c with
        | true =>
            rw [letterWays_cons rfl accepts, List.findSome?_singleton, endOffset_loop,
              List.takeWhile_cons_of_pos accepts, Option.map_some, wholeRun]
            refine congrArg some ?_
            dsimp only
            omega
        | false =>
            rw [letterWays_stop (fun other isFirst => by cases isFirst; exact accepts)]
            simp [wholeRun, accepts]
  positive := by
    intro run length found
    obtain ⟨present, rfl⟩ := wholeRun_eq_some_iff.mp found
    exact List.length_pos_iff.mpr present
  inside := by
    intro run length found
    exact Nat.le_of_eq (wholeRun_eq_some_iff.mp found).2
  never := nofun
  once := by
    intro run length found
    obtain ⟨_, rfl⟩ := wholeRun_eq_some_iff.mp found
    rw [List.drop_length]
    rfl

/-- A search for a class that is repeated greedily finds the runs of what it accepts. -/
theorem matchesIn_repeated_letter (accepted : CharClass) (text : List Char) :
    (repeated (letter accepted) 1 none true).program.matchesIn text =
      Text.runs (fun c => !accepted.accepts c) text := by
  rw [matchesIn_program _ rfl,
    (withinRuns_repeated_letter accepted).matchesBy_eq (Nat.zero_le _), List.drop_zero,
    matchesInRuns]
  have whole : ∀ run ∈ Text.runs (fun c => !accepted.accepts c) text,
      (wholeRun run).map run.take = some run := by
    intro run isRun
    have present : run ≠ [] := by
      have nonempty := (List.mem_filter.mp isRun).2
      simpa using nonempty
    rw [wholeRun_eq_some_iff.mpr ⟨present, rfl⟩, Option.map_some, List.take_length]
  rw [List.filterMap_congr whole, List.filterMap_some]

/-! ### Literals -/

/-- The place behind some characters. -/
def passing : List Char → Place → Place
  | [], place => place
  | c :: text, place =>
    passing text { offset := place.offset + 1, before := some c, rest := place.rest.tail }

theorem passing_offset (text : List Char) (place : Place) :
    (passing text place).offset = place.offset + text.length := by
  induction text generalizing place with
  | nil => rfl
  | cons c text ih =>
      rw [passing, ih, List.length_cons]
      change place.offset + 1 + _ = _
      omega

theorem passing_rest (text : List Char) (place : Place) :
    (passing text place).rest = place.rest.drop text.length := by
  induction text generalizing place with
  | nil => rfl
  | cons c text ih =>
      rw [passing, ih, List.drop_tail]
      rfl

theorem accepts_single {wanted c : Char} :
    (CharClass.single wanted).accepts c = true ↔ c = wanted := by
  simp only [CharClass.single, CharClass.accepts, List.any_cons, List.any_nil, Bool.or_false,
    Bool.and_eq_true, decide_eq_true_eq]
  constructor
  · exact fun both => Char.le_antisymm both.2 both.1
  · rintro rfl
    exact ⟨Char.le_refl _, Char.le_refl _⟩

theorem letterWays_single (wanted : Char) (place : Place) :
    letterWays (.single wanted) place =
      if place.rest.head? = some wanted then [passing [wanted] place] else [] := by
  cases isRest : place.rest with
  | nil => rw [letterWays_stop (by simp [isRest])]; rfl
  | cons c rest =>
      by_cases same : c = wanted
      · subst same
        rw [letterWays_cons isRest (accepts_single.mpr rfl), passing, passing, isRest]
        simp
      · have refuses : (CharClass.single wanted).accepts c = false :=
          Bool.not_eq_true _ ▸ mt accepts_single.mp same
        rw [letterWays_stop]
        · simp [same]
        · intro other isFirst
          rw [isRest] at isFirst
          cases isFirst
          exact refuses

theorem ways_literal_cons (c : Char) (text : List Char) (place : Place) :
    (Expression.literal (c :: text)).toPattern.ways place =
      (letterWays (.single c) place).flatMap (Expression.literal text).toPattern.ways := by
  cases text with
  | nil => exact (List.flatMap_singleton' _).symm
  | cons next text => rfl

theorem ways_literal_append (left right : List Char) (place : Place) :
    (Expression.literal (left ++ right)).toPattern.ways place =
      ((Expression.literal left).toPattern.ways place).flatMap
        (Expression.literal right).toPattern.ways := by
  induction left generalizing place with
  | nil => exact (List.flatMap_singleton _ place).symm
  | cons c left ih =>
      rw [List.cons_append, ways_literal_cons, ways_literal_cons, List.flatMap_assoc]
      exact List.flatMap_congr fun middle _ => ih middle

/-- A literal matches just where the text goes on with it. -/
theorem ways_literal (text : List Char) (place : Place) :
    (Expression.literal text).toPattern.ways place =
      if (Text.after? text place.rest).isSome then [passing text place] else [] := by
  induction text generalizing place with
  | nil => rfl
  | cons c text ih =>
      rw [ways_literal_cons, letterWays_single]
      cases isRest : place.rest with
      | nil => rfl
      | cons other rest =>
          by_cases same : other = c
          · subst same
            rw [List.head?_cons, if_pos rfl, List.flatMap_singleton, ih]
            simp [Text.after?, passing, isRest]
          · have apart : c ≠ other := Ne.symm same
            simp [Text.after?, same, apart]

theorem endOffset_literal (text : List Char) (place : Place) :
    (Expression.literal text).toPattern.endOffset place =
      if (Text.after? text place.rest).isSome then some (place.offset + text.length) else none := by
  rw [endOffset, ways_literal]
  split
  · rw [List.head?_singleton, Option.map_some, passing_offset]
  · rfl

/-- A choice between literals of one length matches where the text goes on with one of them. -/
theorem endOffset_choice_literals {length : Nat} {texts : List (List Char)} (present : texts ≠ [])
    (lengths : ∀ text ∈ texts, text.length = length) (place : Place) :
    (choiceOf (texts.map (fun text => (Expression.literal text).toPattern))).endOffset place =
      if texts.any (fun text => (Text.after? text place.rest).isSome) then
        some (place.offset + length)
      else none := by
  induction texts with
  | nil => contradiction
  | cons text texts ih =>
      have isLength := lengths text (List.mem_cons_self ..)
      have ofText := endOffset_literal text place
      rw [isLength] at ofText
      cases texts with
      | nil =>
          refine ofText.trans ?_
          rw [List.any_cons, List.any_nil, Bool.or_false]
      | cons other texts =>
          have later := ih (List.cons_ne_nil _ _)
            (fun text inside => lengths text (List.mem_cons_of_mem _ inside))
          rw [List.any_cons]
          refine (endOffset_choice _ _ place).trans ?_
          rw [ofText]
          refine (congrArg _ later).trans ?_
          cases (Text.after? text place.rest).isSome <;> simp

end TexAtlas.Pattern
