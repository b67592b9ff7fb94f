/-
Searches for whole lines. Where a match begins at the beginning of a line only and then takes the
whole line, a search finds the lines that match, in their order.
-/

import TexAtlas.Proofs.Pattern.Runs

namespace TexAtlas.MatchProgram

variable {lengthAt : Place → Option Nat} {accepts : List Char → Bool} {line tail text : List Char}

/-- Matches of whole lines: those that are accepted, and they have characters. -/
structure WholeLines (lengthAt : Place → Option Nat) (accepts : List Char → Bool) : Prop where
  inside : ∀ place c, place.before = some c → c ≠ '\n' → lengthAt place = none
  atStart : ∀ place, place.before = none ∨ place.before = some '\n' →
    lengthAt place =
      (if accepts (place.rest.takeWhile (fun c => !(c == '\n'))) then
        some (place.rest.takeWhile (fun c => !(c == '\n'))).length
      else none)
  present : accepts [] = false

/-- Inside a line nothing is found before the next line. -/
theorem WholeLines.matchesBy_inside (whole : WholeLines lengthAt accepts)
    (free : ∀ c ∈ line, (c == '\n') = false) (offset : Nat) {skip : Nat} {c : Char}
    (afterMatch : Bool) (isInside : c ≠ '\n') (skips : skip ≤ line.length) :
    matchesBy lengthAt offset (some c) skip afterMatch line = [] ∧
    ∀ rest, ∃ later, matchesBy lengthAt offset (some c) skip afterMatch (line ++ '\n' :: rest) =
      matchesBy lengthAt later (some '\n') 0 false rest := by
  induction line generalizing offset skip c afterMatch with
  | nil =>
      obtain rfl := Nat.le_zero.mp skips
      refine ⟨?_, fun rest => ⟨offset + 1, ?_⟩⟩
      · simp [matchesBy, whole.inside ⟨offset, some c, []⟩ c rfl isInside]
      · rw [List.nil_append, matchesBy, whole.inside _ c rfl isInside]
  | cons next line ih =>
      have nextInside : next ≠ '\n' := by
        have nextFree := free next (List.mem_cons_self ..)
        simpa using nextFree
      have later := fun other isOther => free other (List.mem_cons_of_mem next isOther)
      cases skip with
      | succ skip => exact ih later (offset + 1) afterMatch nextInside (Nat.le_of_succ_le_succ skips)
      | zero =>
          have nothing := ih later (offset + 1) false nextInside (Nat.zero_le _)
          refine ⟨?_, fun rest => ?_⟩
          · rw [matchesBy, whole.inside _ c rfl isInside]
            exact nothing.1
          · obtain ⟨position, same⟩ := nothing.2 rest
            refine ⟨position, ?_⟩
            rw [List.cons_append, matchesBy, whole.inside _ c rfl isInside]
            exact same

theorem takeWhile_line (free : ∀ c ∈ line, (c == '\n') = false)
    (ends : tail = [] ∨ tail.head? = some '\n') :
    (line ++ tail).takeWhile (fun c => !(c == '\n')) = line := by
  rw [List.takeWhile_append_of_pos (by simpa using free)]
  rcases ends with rfl | feed
  · exact List.append_nil line
  · obtain ⟨rest, rfl⟩ := List.head?_eq_some_iff.mp feed
    exact List.append_nil line

/-- From the beginning of a line on, a search finds the line if it is accepted, and goes on
behind its first character. -/
theorem WholeLines.matchesBy_start (whole : WholeLines lengthAt accepts) {c : Char}
    (free : ∀ other ∈ c :: line, (other == '\n') = false) {before : Option Char}
    (isStart : before = none ∨ before = some '\n') (offset : Nat) (afterMatch : Bool)
    (tail : List Char) (ends : tail = [] ∨ tail.head? = some '\n') :
    ∃ skip ≤ line.length, ∃ later : Bool,
      matchesBy lengthAt offset before 0 afterMatch (c :: line ++ tail) =
        [c :: line].filter accepts ++
          matchesBy lengthAt (offset + 1) (some c) skip later (line ++ tail) := by
  have atStart := whole.atStart ⟨offset, before, c :: line ++ tail⟩ isStart
  rw [takeWhile_line free ends] at atStart
  cases accepted : accepts (c :: line) with
  | true =>
      refine ⟨line.length, Nat.le_refl _, true, ?_⟩
      rw [accepted, if_pos rfl] at atStart
      rw [List.cons_append] at atStart ⊢
      rw [matchesBy, atStart]
      simp [accepted]
  | false =>
      refine ⟨0, Nat.zero_le _, false, ?_⟩
      rw [accepted] at atStart
      rw [List.cons_append] at atStart ⊢
      rw [matchesBy, atStart]
      simp [accepted]

/-- A search for whole lines finds the lines that are accepted. -/
theorem WholeLines.matchesBy_eq (whole : WholeLines lengthAt accepts) {offset : Nat}
    {before : Option Char} {afterMatch : Bool} (isStart : before = none ∨ before = some '\n') :
    matchesBy lengthAt offset before 0 afterMatch text = (Text.rawLines text).filter accepts := by
  induction text using Text.piecewise (· == '\n') generalizing offset before afterMatch with
  | piece line free =>
      rw [Text.rawLines_of_oneLine (fun inside => by cases free _ inside)]
      cases line with
      | nil =>
          have nothing := whole.atStart ⟨offset, before, []⟩ isStart
          rw [List.takeWhile_nil, whole.present] at nothing
          simp [matchesBy, nothing, whole.present]
      | cons c line =>
          obtain ⟨skip, skips, later, same⟩ :=
            whole.matchesBy_start free isStart offset afterMatch [] (Or.inl rfl)
          have nothing := whole.matchesBy_inside
            (fun other inside => free other (List.mem_cons_of_mem c inside))
            (offset + 1) later (ne_of_beq_false (free c (List.mem_cons_self ..))) skips
          rw [List.append_nil, List.append_nil] at same
          rw [same, nothing.1, List.append_nil]
  | cut line c rest free isFeed ih =>
      obtain rfl := beq_iff_eq.mp isFeed
      rw [Text.rawLines_append, Text.rawLines_of_oneLine (fun inside => by cases free _ inside),
        List.filter_append]
      cases line with
      | nil =>
          have nothing := whole.atStart ⟨offset, before, '\n' :: rest⟩ isStart
          rw [List.takeWhile_cons_of_neg (by decide), whole.present] at nothing
          rw [List.nil_append, matchesBy, nothing]
          refine (ih (Or.inr rfl)).trans ?_
          simp [whole.present]
      | cons first line =>
          obtain ⟨skip, skips, later, same⟩ :=
            whole.matchesBy_start free isStart offset afterMatch ('\n' :: rest) (Or.inr rfl)
          obtain ⟨_, goesOn⟩ := whole.matchesBy_inside
            (fun other inside => free other (List.mem_cons_of_mem first inside))
            (offset + 1) later (ne_of_beq_false (free first (List.mem_cons_self ..))) skips
          obtain ⟨position, restSame⟩ := goesOn rest
          rw [same, restSame, ih (Or.inr rfl)]

end TexAtlas.MatchProgram
