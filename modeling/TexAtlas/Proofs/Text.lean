/-
What cutting and searching a text give. A cut distributes over a separator, so a text can be
taken piece by piece; the runs of a text are its maximal parts without separators, and cutting
it into lines first does not change its words. A search finds the first occurrence.
-/

import Mathlib.Data.List.TakeWhile
import TexAtlas.Text.Blank
import TexAtlas.Text.Find
import TexAtlas.Text.Lines

namespace TexAtlas.Text

variable {α β : Type} {separates coarse : α → Bool}

/-! ### Pieces -/

theorem extendFirst_append {item : α} {pieces : List (List α)} (others : List (List α))
    (present : pieces ≠ []) :
    extendFirst item (pieces ++ others) = extendFirst item pieces ++ others := by
  cases pieces with
  | nil => contradiction
  | cons first rest => rfl

theorem cutAt_cons_of_separates {item : α} (separator : separates item = true) (rest : List α) :
    cutAt separates (item :: rest) = [] :: cutAt separates rest := by
  simp [cutAt, separator]

theorem cutAt_append_cons (left : List α) {item : α} (separator : separates item = true)
    (right : List α) :
    cutAt separates (left ++ item :: right) = cutAt separates left ++ cutAt separates right := by
  induction left with
  | nil => exact cutAt_cons_of_separates separator right
  | cons first left ih =>
      rw [List.cons_append, cutAt, cutAt, ih]
      by_cases stops : separates first = true
      · simp [stops]
      · simp only [stops]
        exact extendFirst_append _ (cutAt_ne_nil separates left)

theorem cutAt_of_free {piece : List α} (free : ∀ item ∈ piece, separates item = false) :
    cutAt separates piece = [piece] := by
  induction piece with
  | nil => rfl
  | cons item piece ih =>
      have itemFree := free item (List.mem_cons_self ..)
      have restFree := ih (fun other inside => free other (List.mem_cons_of_mem item inside))
      simp [cutAt, itemFree, restFree, extendFirst]

/-- A text is one piece, or a piece and a text behind a separator. -/
@[elab_as_elim]
theorem piecewise {motive : List α → Prop} (separates : α → Bool)
    (piece : ∀ piece, (∀ item ∈ piece, separates item = false) → motive piece)
    (cut : ∀ piece item rest, (∀ other ∈ piece, separates other = false) →
      separates item = true → motive rest → motive (piece ++ item :: rest))
    (items : List α) : motive items := by
  suffices general : ∀ items before, (∀ item ∈ before, separates item = false) →
      motive (before ++ items) from general items [] (fun _ inside => by cases inside)
  intro items
  induction items with
  | nil =>
      intro before free
      rw [List.append_nil]
      exact piece before free
  | cons item items ih =>
      intro before free
      cases stops : separates item with
      | true => exact cut before item items free stops (ih [] (fun _ inside => by cases inside))
      | false =>
          rw [List.append_cons]
          apply ih
          intro other inside
          rcases List.mem_append.mp inside with old | new
          · exact free other old
          · rw [List.mem_singleton.mp new]
            exact stops

/-- There is one piece more than there are separators. -/
theorem length_cutAt (items : List α) :
    (cutAt separates items).length = items.countP separates + 1 := by
  induction items using piecewise separates with
  | piece piece free =>
      have none_separates : piece.countP separates = 0 :=
        List.countP_eq_zero.mpr fun item inside => Bool.eq_false_iff.mp (free item inside)
      rw [cutAt_of_free free, none_separates, List.length_singleton]
  | cut piece item rest free separator ih =>
      have none_separates : piece.countP separates = 0 :=
        List.countP_eq_zero.mpr fun other inside => Bool.eq_false_iff.mp (free other inside)
      rw [cutAt_append_cons piece separator, cutAt_of_free free, List.length_append, ih,
        List.countP_append, List.countP_cons_of_pos separator, none_separates,
        List.length_singleton]
      omega

/-! ### Runs -/

/-- The runs of a list in their order: parts without separators that are as long as they can
be, with nothing but separators before, between and after them. -/
inductive MaximalRuns (separates : α → Bool) : List α → List (List α) → Prop where
  | none {gap : List α} : (∀ item ∈ gap, separates item = true) → MaximalRuns separates gap []
  | next {gap run rest : List α} {others : List (List α)} :
      (∀ item ∈ gap, separates item = true) → run ≠ [] →
      (∀ item ∈ run, separates item = false) →
      (∀ item, rest.head? = some item → separates item = true) →
      MaximalRuns separates rest others →
      MaximalRuns separates (gap ++ run ++ rest) (run :: others)

theorem runs_append_cons (left : List α) {item : α} (separator : separates item = true)
    (right : List α) :
    runs separates (left ++ item :: right) = runs separates left ++ runs separates right := by
  rw [runs, runs, runs, cutAt_append_cons left separator, List.filter_append]

theorem runs_cons_of_separates {item : α} (separator : separates item = true) (rest : List α) :
    runs separates (item :: rest) = runs separates rest :=
  runs_append_cons [] separator rest

theorem runs_append_of_separate {gap : List α} (separators : ∀ item ∈ gap, separates item = true)
    (rest : List α) : runs separates (gap ++ rest) = runs separates rest := by
  induction gap with
  | nil => rfl
  | cons item gap ih =>
      rw [List.cons_append, runs_cons_of_separates (separators item (List.mem_cons_self ..))]
      exact ih (fun other inside => separators other (List.mem_cons_of_mem item inside))

/-- What a list begins with that has no separators, as far as it goes. -/
theorem exists_run (separates : α → Bool) (items : List α) :
    ∃ tail, items = items.takeWhile (fun item => !separates item) ++ tail ∧
      (∀ item ∈ items.takeWhile (fun item => !separates item), separates item = false) ∧
      ∀ item, tail.head? = some item → separates item = true := by
  refine ⟨items.dropWhile (fun item => !separates item), ?_, ?_, ?_⟩
  · exact List.takeWhile_append_dropWhile.symm
  · intro item inside
    have kept := List.mem_takeWhile_imp inside
    simpa using kept
  · intro item isFirst
    have stops := List.head?_dropWhile_not (fun item => !separates item) items
    rw [isFirst] at stops
    simpa using stops

/-- What has no separators begins a run with more behind it just if it begins the run. -/
theorem prefix_append_iff {wanted run tail : List α}
    (free : ∀ item ∈ wanted, separates item = false)
    (ends : ∀ item, tail.head? = some item → separates item = true) :
    wanted <+: run ++ tail ↔ wanted <+: run := by
  constructor
  · rintro ⟨behind, whole⟩
    rcases List.append_eq_append_iff.mp whole with ⟨more, isRun, _⟩ | ⟨more, isWanted, isTail⟩
    · exact ⟨more, isRun.symm⟩
    · cases more with
      | nil => exact ⟨[], by rw [isWanted, List.append_nil, List.append_nil]⟩
      | cons item more =>
          have separator : separates item = true := ends item (by rw [isTail]; rfl)
          rw [free item (by simp [isWanted])] at separator
          cases separator
  · exact fun begins => begins.trans (List.prefix_append run tail)

theorem runs_of_free {run : List α} (present : run ≠ [])
    (free : ∀ item ∈ run, separates item = false) : runs separates run = [run] := by
  simp [runs, cutAt_of_free free, present]

theorem runs_append_of_ends {run tail : List α} (present : run ≠ [])
    (free : ∀ item ∈ run, separates item = false)
    (ends : ∀ item, tail.head? = some item → separates item = true) :
    runs separates (run ++ tail) = run :: runs separates tail := by
  cases tail with
  | nil =>
      rw [List.append_nil, runs_of_free present free]
      rfl
  | cons item tail =>
      have separator := ends item rfl
      rw [runs_append_cons run separator, runs_of_free present free,
        runs_cons_of_separates separator]
      rfl

theorem runs_append_of_starts {front : List α}
    (starts : ∀ item, front.getLast? = some item → separates item = true) (rest : List α) :
    runs separates (front ++ rest) = runs separates front ++ runs separates rest := by
  cases last : front.getLast? with
  | none =>
      rw [List.getLast?_eq_none_iff.mp last]
      rfl
  | some item =>
      have separator := starts item last
      obtain ⟨start, rfl⟩ := List.getLast?_eq_some_iff.mp last
      rw [List.append_assoc, List.singleton_append, runs_append_cons start separator,
        runs_append_cons start separator]
      exact congrArg (· ++ runs separates rest) (List.append_nil _).symm

/-- The list has the run somewhere, without separators and with none but separators beside it. -/
structure HasRun (separates : α → Bool) (items run : List α) : Prop where
  present : run ≠ []
  free : ∀ item ∈ run, separates item = false
  maximal : ∃ before behind, items = before ++ run ++ behind ∧
    (∀ item, before.getLast? = some item → separates item = true) ∧
    ∀ item, behind.head? = some item → separates item = true

theorem hasRun_of_mem_runs {items run : List α} (found : run ∈ runs separates items) :
    HasRun separates items run := by
  -- What a part without separators has for a run is the part itself.
  have whole : ∀ piece : List α, (∀ item ∈ piece, separates item = false) →
      run ∈ runs separates piece → piece ≠ [] ∧ run = piece := by
    intro piece free inside
    by_cases present : piece = []
    · rw [present] at inside
      cases inside
    · rw [runs_of_free present free] at inside
      exact ⟨present, List.mem_singleton.mp inside⟩
  induction items using piecewise separates with
  | piece piece free =>
      obtain ⟨present, rfl⟩ := whole piece free found
      exact ⟨present, free, [], [], by simp, by simp, by simp⟩
  | cut piece item rest free separator ih =>
      rw [runs_append_cons piece separator] at found
      rcases List.mem_append.mp found with here | later
      · obtain ⟨present, rfl⟩ := whole piece free here
        refine ⟨present, free, [], item :: rest, by simp, by simp, ?_⟩
        rintro other ⟨⟩
        exact separator
      · obtain ⟨present, runFree, before, behind, rfl, starts, ends⟩ := ih later
        refine ⟨present, runFree, piece ++ item :: before, behind, by simp, ?_, ends⟩
        intro other isLast
        rw [List.getLast?_append, List.getLast?_cons, Option.some_or] at isLast
        cases isLast
        cases last : before.getLast? with
        | none => exact separator
        | some found => exact starts found last

theorem mem_runs_of_hasRun {items run : List α} (has : HasRun separates items run) :
    run ∈ runs separates items := by
  obtain ⟨present, free, before, behind, rfl, starts, ends⟩ := has
  rw [List.append_assoc, runs_append_of_starts starts, runs_append_of_ends present free ends]
  exact List.mem_append_right _ (List.mem_cons_self ..)

theorem mem_runs_iff {items run : List α} :
    run ∈ runs separates items ↔ HasRun separates items run :=
  ⟨hasRun_of_mem_runs, mem_runs_of_hasRun⟩

theorem MaximalRuns.skip {item : α} {items : List α} {found : List (List α)}
    (separator : separates item = true) (maximal : MaximalRuns separates items found) :
    MaximalRuns separates (item :: items) found := by
  have grows : ∀ gap : List α, (∀ other ∈ gap, separates other = true) →
      ∀ other ∈ item :: gap, separates other = true := by
    intro gap separators other inside
    rcases List.mem_cons.mp inside with rfl | later
    · exact separator
    · exact separators other later
  cases maximal with
  | none separators => exact .none (grows _ separators)
  | next separators present free ends maximal =>
      exact .next (grows _ separators) present free ends maximal

theorem maximalRuns_iff {items : List α} {found : List (List α)} :
    MaximalRuns separates items found ↔ runs separates items = found := by
  constructor
  · intro maximal
    induction maximal with
    | none separators =>
        have all := runs_append_of_separate separators []
        rwa [List.append_nil] at all
    | @next gap run rest others separators present free ends _ ih =>
        rw [List.append_assoc, runs_append_of_separate separators,
          runs_append_of_ends present free ends, ih]
  · rintro rfl
    have alone : ∀ piece : List α, (∀ item ∈ piece, separates item = false) →
        ∀ rest, (∀ item, rest.head? = some item → separates item = true) →
          MaximalRuns separates rest (runs separates rest) →
          MaximalRuns separates (piece ++ rest) (runs separates piece ++ runs separates rest) := by
      intro piece free rest ends maximal
      by_cases present : piece = []
      · subst present
        exact maximal
      · rw [runs_of_free present free]
        have noGap : ∀ item ∈ ([] : List α), separates item = true := fun _ inside => by
          cases inside
        exact .next noGap present free ends maximal
    induction items using piecewise separates with
    | piece piece free =>
        have only := alone piece free [] (fun _ impossible => by cases impossible)
          (.none (fun _ inside => by cases inside))
        simpa [runs, cutAt] using only
    | cut piece item rest free separator ih =>
        rw [runs_append_cons piece separator, ← runs_cons_of_separates separator rest]
        apply alone piece free
        · rintro other ⟨⟩
          exact separator
        · rw [runs_cons_of_separates separator]
          exact ih.skip separator

/-- A list can be cut at some of the separators first. -/
theorem runs_eq_flatMap_cutAt (finer : ∀ item, coarse item = true → separates item = true)
    (items : List α) :
    runs separates items = (cutAt coarse items).flatMap (runs separates) := by
  induction items using piecewise coarse with
  | piece piece free => simp [cutAt_of_free free]
  | cut piece item rest free separator ih =>
      rw [runs_append_cons piece (finer item separator), cutAt_append_cons piece separator,
        cutAt_of_free free, ih]
      rfl

/-! ### Lines -/

/-- What is collected from lines up to one that ends the collection. Nothing depends on the
carriage returns at line ends or on an empty last line, where neither matters for one line. -/
theorem flatMap_takeWhile_lines {keep : List Char → Bool} {collect : List Char → List β}
    (keepReturn : ∀ line, keep (dropReturn line) = keep line)
    (collectReturn : ∀ line, collect (dropReturn line) = collect line)
    (collectNil : collect [] = []) (text : List Char) :
    ((lines text).takeWhile keep).flatMap collect =
      ((rawLines text).takeWhile keep).flatMap collect := by
  unfold lines
  induction rawLines text with
  | nil => rfl
  | cons line rest ih =>
      cases rest with
      | nil =>
          by_cases empty : line = []
          · subst empty
            cases keeps : keep [] <;> simp [closeLines, keeps, collectNil]
          · simp [closeLines, empty]
      | cons next rest =>
          have closes : closeLines (line :: next :: rest) =
              dropReturn line :: closeLines (next :: rest) := rfl
          rw [closes, List.takeWhile_cons, List.takeWhile_cons, keepReturn]
          cases keep line with
          | false => rfl
          | true =>
              simp only [if_true, List.flatMap_cons, collectReturn, ih]

theorem rawLines_append (left right : List Char) :
    rawLines (left ++ '\n' :: right) = rawLines left ++ rawLines right :=
  cutAt_append_cons left rfl right

theorem rawLines_of_oneLine {line : List Char} (oneLine : '\n' ∉ line) :
    rawLines line = [line] := by
  apply cutAt_of_free
  intro c inside
  rw [beq_eq_false_iff_ne]
  rintro rfl
  exact oneLine inside

/-- Lines that all end in a line feed have nothing behind the last one. -/
theorem rawLines_flatMap {closed : List (List Char)} (oneLine : ∀ line ∈ closed, '\n' ∉ line) :
    rawLines (closed.flatMap (fun line => line ++ ['\n'])) = closed ++ [[]] := by
  induction closed with
  | nil => rfl
  | cons line rest ih =>
      rw [List.flatMap_cons, List.append_assoc, List.singleton_append, rawLines_append,
        rawLines_of_oneLine (oneLine line (List.mem_cons_self ..)),
        ih fun other inside => oneLine other (List.mem_cons_of_mem line inside)]
      rfl

theorem lines_flatMap {closed : List (List Char)} (oneLine : ∀ line ∈ closed, '\n' ∉ line) :
    lines (closed.flatMap (fun line => line ++ ['\n'])) = closed.map dropReturn := by
  rw [lines, rawLines_flatMap oneLine]
  clear oneLine
  induction closed with
  | nil => rfl
  | cons line rest ih =>
      have closes : closeLines (line :: (rest ++ [[]])) =
          dropReturn line :: closeLines (rest ++ [[]]) := by
        cases rest <;> rfl
      rw [List.cons_append, closes, ih, List.map_cons]

/-! ### Blanks at the ends -/

theorem exists_trim (text : List Char) :
    ∃ left right : List Char, text = left ++ trim text ++ right ∧
      (∀ c ∈ left, isBlank c = true) ∧ ∀ c ∈ right, isBlank c = true := by
  let kept := text.dropWhile isBlank
  refine ⟨text.takeWhile isBlank, (kept.reverse.takeWhile isBlank).reverse, ?_, ?_, ?_⟩
  · have keptWhole : kept = trimEnd kept ++ (kept.reverse.takeWhile isBlank).reverse := by
      rw [trimEnd, ← List.reverse_append, List.takeWhile_append_dropWhile, List.reverse_reverse]
    rw [List.append_assoc, trim, ← keptWhole, List.takeWhile_append_dropWhile]
  · exact fun c inside => List.mem_takeWhile_imp inside
  · intro c inside
    exact List.mem_takeWhile_imp (List.mem_reverse.mp inside)

private theorem dropWhile_of_free {p : α → Bool} {items : List α}
    (free : ∀ item ∈ items, p item = false) : items.dropWhile p = items := by
  cases items with
  | nil => rfl
  | cons item items => simp [free item (List.mem_cons_self ..)]

theorem trim_of_free {left core right : List Char} (leftBlank : ∀ c ∈ left, isBlank c = true)
    (free : ∀ c ∈ core, isBlank c = false) (rightBlank : ∀ c ∈ right, isBlank c = true) :
    trim (left ++ core ++ right) = core := by
  have atEnd : trimEnd (core ++ right) = core := by
    rw [trimEnd, List.reverse_append, List.dropWhile_append_of_pos, dropWhile_of_free,
      List.reverse_reverse]
    · exact fun c inside => free c (List.mem_reverse.mp inside)
    · exact fun c inside => rightBlank c (List.mem_reverse.mp inside)
  rw [trim, List.append_assoc, List.dropWhile_append_of_pos leftBlank]
  cases core with
  | nil =>
      have nothing : right.dropWhile isBlank = [] := List.dropWhile_eq_nil_iff.mpr rightBlank
      simp [nothing, trimEnd]
  | cons c core =>
      have first := free c (List.mem_cons_self ..)
      rw [List.cons_append, List.dropWhile_cons_of_neg (by simp [first])]
      exact atEnd

theorem trim_append_blank (text : List Char) {c : Char} (blank : isBlank c = true) :
    trim (text ++ [c]) = trim text := by
  rw [trim, trim, List.dropWhile_append]
  split
  · rename_i nothing
    rw [List.isEmpty_iff.mp nothing]
    simp [trimEnd, blank]
  · simp [trimEnd, blank]

/-- The return that a line may lose is a blank at its end. -/
theorem dropReturn_cases (line : List Char) :
    dropReturn line = line ∨ line = dropReturn line ++ ['\r'] := by
  unfold dropReturn
  split
  · rename_i last
    obtain ⟨start, rfl⟩ := List.getLast?_eq_some_iff.mp last
    rw [List.dropLast_concat]
    exact Or.inr rfl
  · exact Or.inl rfl

theorem dropReturn_of_noReturn {line : List Char} (noReturn : '\r' ∉ line) :
    dropReturn line = line := by
  rw [dropReturn, if_neg]
  exact fun isLast => noReturn (List.mem_of_getLast? isLast)

theorem trim_dropReturn (line : List Char) : trim (dropReturn line) = trim line := by
  rcases dropReturn_cases line with same | whole
  · rw [same]
  · conv =>
      rhs
      rw [whole]
    exact (trim_append_blank _ (by decide)).symm

theorem words_dropReturn (line : List Char) : words (dropReturn line) = words line := by
  rcases dropReturn_cases line with same | whole
  · rw [same]
  · conv =>
      rhs
      rw [whole]
    rw [words, words, runs_append_cons _ (by decide)]
    simp [runs, cutAt]

/-! ### Occurrences -/

theorem after?_eq_none_iff {wanted text : List Char} :
    after? wanted text = none ↔ ¬wanted <+: text := by
  constructor
  · rintro nothing ⟨rest, whole⟩
    rw [after?_eq_some_iff.mpr whole.symm] at nothing
    cases nothing
  · intro noPrefix
    cases found : after? wanted text with
    | none => rfl
    | some rest => exact absurd ⟨rest, (after?_eq_some_iff.mp found).symm⟩ noPrefix

/-- The wanted characters stand between the two parts of the text, and nowhere earlier. -/
structure FirstOccurrence (wanted text before rest : List Char) : Prop where
  whole : text = before ++ wanted ++ rest
  first : ∀ otherBefore otherRest, text = otherBefore ++ wanted ++ otherRest →
    before.length ≤ otherBefore.length

theorem afterFirst?_eq_none_iff {wanted text : List Char} :
    afterFirst? wanted text = none ↔ ¬wanted <:+: text := by
  induction text with
  | nil => simp [afterFirst?, after?_eq_none_iff]
  | cons c text ih =>
      rw [List.infix_cons_iff, not_or, ← after?_eq_none_iff, ← ih, afterFirst?]
      cases after? wanted (c :: text) <;> simp

theorem afterFirst?_eq_some_iff {wanted text rest : List Char} :
    afterFirst? wanted text = some rest ↔ ∃ before, FirstOccurrence wanted text before rest := by
  induction text with
  | nil =>
      rw [afterFirst?, after?_eq_some_iff]
      constructor
      · exact fun whole => ⟨[], whole, fun _ _ _ => Nat.zero_le _⟩
      · rintro ⟨before, whole, _⟩
        simp_all
  | cons c text ih =>
      rw [afterFirst?]
      cases here : after? wanted (c :: text) with
      | some found =>
          have whole := after?_eq_some_iff.mp here
          constructor
          · rintro ⟨⟩
            exact ⟨[], whole, fun _ _ _ => Nat.zero_le _⟩
          · rintro ⟨before, otherWhole, first⟩
            have atStart := first [] found whole
            have noneBefore : before = [] := List.length_eq_zero_iff.mp (Nat.le_zero.mp atStart)
            subst noneBefore
            rw [otherWhole, List.nil_append, List.append_cancel_left_eq] at whole
            rw [whole]
      | none =>
          have notHere := after?_eq_none_iff.mp here
          constructor
          · intro later
            obtain ⟨before, whole, first⟩ := ih.mp later
            refine ⟨c :: before, congrArg (List.cons c) whole, ?_⟩
            intro otherBefore otherRest otherWhole
            cases otherBefore with
            | nil => exact absurd ⟨otherRest, otherWhole.symm⟩ notHere
            | cons _ otherBefore =>
                cases otherWhole
                exact Nat.succ_le_succ (first otherBefore otherRest rfl)
          · rintro ⟨before, whole, first⟩
            cases before with
            | nil => exact absurd ⟨rest, whole.symm⟩ notHere
            | cons _ before =>
                cases whole
                refine ih.mpr ⟨before, rfl, fun otherBefore otherRest otherWhole => ?_⟩
                have le := first (c :: otherBefore) otherRest (congrArg (List.cons c) otherWhole)
                exact Nat.le_of_succ_le_succ le

end TexAtlas.Text
