/-
Searching with memory finds what searching without it finds. What a state at a place comes to is
said without memory first, for as deep a search as is allowed. A state that was tried is known to
fail, or its own trial is not over yet; the second kind is never met again where the search ends,
because it would have to come to something within itself.
-/

import Mathlib.Data.List.Perm.Subperm
import Std.Data.TreeSet.Lemmas
import TexAtlas.Pattern.Search

namespace TexAtlas.MatchProgram

/-! ### Without memory -/

/-- What some states at places come to: the first place where a match ends, tried in their order.
Nothing is said where one that is tried comes to nothing that is known. -/
def firstOf (outcome : Nat × Place → Option (Option Place)) :
    List (Nat × Place) → Option (Option Place)
  | [] => some none
  | item :: others =>
    match outcome item with
    | none => none
    | some none => firstOf outcome others
    | some (some final) => some (some final)

/-- What a state at a place comes to in a search without memory: the place where the preferred
match ends, or a failure. Nothing is said where the search is deeper than allowed. -/
def outcome (program : MatchProgram) : Nat → Nat × Place → Option (Option Place)
  | 0, _ => none
  | depth + 1, (number, place) =>
    match program.states[number]? with
    | none => some none
    | some .accept => some (some place)
    | some state => firstOf (program.outcome depth) (continuations place state)

/-- A state at a place comes to something however deep the search may be, if it is deep enough. -/
def Comes (program : MatchProgram) (item : Nat × Place) (result : Option Place) : Prop :=
  ∃ depth, program.outcome depth item = some result

variable {program : MatchProgram} {text : List Char} {item other : Nat × Place}
  {place final : Place} {result : Option Place} {tried : Tried} {depth : Nat}

theorem firstOf_cons_cases {outcome : Nat × Place → Option (Option Place)}
    {items : List (Nat × Place)} (found : firstOf outcome (item :: items) = some result) :
    (outcome item = some none ∧ firstOf outcome items = some result) ∨
      ∃ final, outcome item = some (some final) ∧ result = some final := by
  unfold firstOf at found
  cases head : outcome item with
  | none => simp [head] at found
  | some headResult =>
      cases headResult with
      | none =>
          simp only [head] at found
          exact Or.inl ⟨rfl, found⟩
      | some final =>
          simp only [head] at found
          exact Or.inr ⟨final, rfl, (Option.some.inj found).symm⟩

theorem firstOf_mono {outcome more : Nat × Place → Option (Option Place)}
    (keeps : ∀ item result, outcome item = some result → more item = some result)
    {items : List (Nat × Place)} (found : firstOf outcome items = some result) :
    firstOf more items = some result := by
  induction items with
  | nil => exact found
  | cons item items ih =>
      rcases firstOf_cons_cases found with ⟨fails, later⟩ | ⟨final, finds, rfl⟩
      · rw [firstOf, keeps item none fails]
        exact ih later
      · rw [firstOf, keeps item (some final) finds]

theorem outcome_of_state {number : Nat} {state : MatchState}
    (known : program.states[number]? = some state) (goesOn : state ≠ .accept) :
    program.outcome (depth + 1) (number, place) =
      firstOf (program.outcome depth) (continuations place state) := by
  cases state with
  | accept => contradiction
  | letter | split | position => simp only [outcome, known]

theorem outcome_succ (found : program.outcome depth item = some result) :
    program.outcome (depth + 1) item = some result := by
  induction depth generalizing item result with
  | zero => cases found
  | succ depth ih =>
      obtain ⟨number, place⟩ := item
      cases known : program.states[number]? with
      | none => simpa only [outcome, known] using found
      | some state =>
          by_cases accepts : state = .accept
          · subst accepts
            simpa only [outcome, known] using found
          · rw [outcome_of_state known accepts] at found ⊢
            exact firstOf_mono (fun _ _ => ih) found

theorem outcome_mono {deeper : Nat} (le : depth ≤ deeper)
    (found : program.outcome depth item = some result) :
    program.outcome deeper item = some result := by
  induction le with
  | refl => exact found
  | step _ ih => exact outcome_succ ih

/-- A search that is less deep says the same, or nothing. -/
theorem outcome_none_or_eq {less : Nat} (le : less ≤ depth) (item : Nat × Place) :
    program.outcome less item = none ∨ program.outcome less item = program.outcome depth item := by
  cases known : program.outcome less item with
  | none => exact Or.inl rfl
  | some result => exact Or.inr (outcome_mono le known).symm

theorem Comes.unique {left right : Option Place} (comes : program.Comes item left)
    (others : program.Comes item right) : left = right := by
  obtain ⟨depth, found⟩ := comes
  obtain ⟨deeper, also⟩ := others
  have sameLeft := outcome_mono (Nat.le_max_left depth deeper) found
  have sameRight := outcome_mono (Nat.le_max_right depth deeper) also
  rw [sameLeft] at sameRight
  exact Option.some.inj sameRight

/-! ### Places of a text -/

/-- The place after some characters of a text. -/
def Place.IsIn (text : List Char) (place : Place) : Prop :=
  ∃ passed : List Char, text = passed ++ place.rest ∧ place.offset = passed.length ∧
    place.before = passed.getLast?

theorem Place.IsIn.unique {left right : Place} (isLeft : left.IsIn text)
    (isRight : right.IsIn text) (sameOffset : left.offset = right.offset) : left = right := by
  obtain ⟨passedLeft, wholeLeft, offsetLeft, beforeLeft⟩ := isLeft
  obtain ⟨passedRight, wholeRight, offsetRight, beforeRight⟩ := isRight
  obtain ⟨samePassed, sameRest⟩ :=
    List.append_inj (wholeLeft.symm.trans wholeRight) (by omega)
  obtain ⟨leftOffset, leftBefore, leftRest⟩ := left
  obtain ⟨rightOffset, rightBefore, rightRest⟩ := right
  simp only at *
  subst samePassed sameRest sameOffset
  rw [beforeLeft, beforeRight]

theorem Place.IsIn.offset_le (isIn : place.IsIn text) : place.offset ≤ text.length := by
  obtain ⟨passed, whole, offset, _⟩ := isIn
  rw [whole, List.length_append, offset]
  omega

theorem Place.IsIn.next {c : Char} {rest : List Char} (isIn : place.IsIn text)
    (more : place.rest = c :: rest) :
    Place.IsIn text { offset := place.offset + 1, before := some c, rest := rest } := by
  obtain ⟨passed, whole, offset, _⟩ := isIn
  refine ⟨passed ++ [c], ?_, ?_, ?_⟩
  · rw [whole, more, List.append_assoc, List.singleton_append]
  · rw [List.length_append, offset, List.length_singleton]
  · rw [List.getLast?_concat]

theorem Place.isIn_start (text : List Char) :
    Place.IsIn text { offset := 0, before := none, rest := text } :=
  ⟨[], rfl, rfl, rfl⟩

/-- A search goes on in the same text, never backward. -/
theorem onward_of_continuations {state : MatchState} (isIn : place.IsIn text)
    (continues : item ∈ continuations place state) :
    item.2.IsIn text ∧ place.offset ≤ item.2.offset := by
  cases state with
  | accept => cases continues
  | letter accepted next =>
      simp only [continuations] at continues
      split at continues
      · cases continues
      · rename_i c rest more
        split at continues
        · obtain rfl := List.mem_singleton.mp continues
          exact ⟨isIn.next more, Nat.le_succ _⟩
        · cases continues
  | split preferred other =>
      rcases List.mem_pair.mp continues with rfl | rfl
      · exact ⟨isIn, Nat.le_refl _⟩
      · exact ⟨isIn, Nat.le_refl _⟩
  | position assertion next =>
      simp only [continuations] at continues
      split at continues
      · obtain rfl := List.mem_singleton.mp continues
        exact ⟨isIn, Nat.le_refl _⟩
      · cases continues

theorem length_continuations (place : Place) (state : MatchState) :
    (continuations place state).length ≤ 2 := by
  cases state with
  | accept => exact Nat.zero_le _
  | letter accepted next =>
      simp only [continuations]
      split
      · exact Nat.zero_le _
      · split <;> simp
  | split preferred other => exact Nat.le_refl _
  | position assertion next =>
      simp only [continuations]
      split <;> simp

theorem exists_of_firstOf {outcome : Nat × Place → Option (Option Place)}
    {items : List (Nat × Place)} (found : firstOf outcome items = some (some final)) :
    ∃ item ∈ items, outcome item = some (some final) := by
  induction items with
  | nil => cases found
  | cons item items ih =>
      rcases firstOf_cons_cases found with ⟨_, later⟩ | ⟨_, finds, ⟨⟩⟩
      · obtain ⟨other, inside, comes⟩ := ih later
        exact ⟨other, List.mem_cons_of_mem _ inside, comes⟩
      · exact ⟨item, List.mem_cons_self .., finds⟩

/-- A match ends in the text, at or behind the place where it begins. -/
theorem onward_of_outcome (isIn : item.2.IsIn text)
    (found : program.outcome depth item = some (some final)) :
    final.IsIn text ∧ item.2.offset ≤ final.offset := by
  induction depth generalizing item with
  | zero => cases found
  | succ depth ih =>
      obtain ⟨number, place⟩ := item
      cases known : program.states[number]? with
      | none => simp [outcome, known] at found
      | some state =>
          by_cases accepts : state = .accept
          · subst accepts
            simp only [outcome, known] at found
            cases found
            exact ⟨isIn, Nat.le_refl _⟩
          · rw [outcome_of_state known accepts] at found
            obtain ⟨next, continues, nextFound⟩ := exists_of_firstOf found
            obtain ⟨nextIn, nextLe⟩ := onward_of_continuations isIn continues
            obtain ⟨finalIn, finalLe⟩ := ih nextIn nextFound
            exact ⟨finalIn, Nat.le_trans nextLe finalLe⟩

/-! ### With memory -/

/-- Whether a state was tried at a place. -/
def wasTried (program : MatchProgram) (tried : Tried) (item : Nat × Place) : Bool :=
  tried.contains (program.trial item.2.offset item.1)

def remember (program : MatchProgram) (tried : Tried) (item : Nat × Place) : Tried :=
  tried.insert (program.trial item.2.offset item.1)

/-- A state of the program at a place of the text. -/
def Stands (program : MatchProgram) (text : List Char) (item : Nat × Place) : Prop :=
  item.1 < program.states.size ∧ item.2.IsIn text

theorem trial_lt (stands : program.Stands text item) :
    program.trial item.2.offset item.1 < program.states.size * (text.length + 1) := by
  obtain ⟨isState, isIn⟩ := stands
  have most := Nat.mul_le_mul_right program.states.size isIn.offset_le
  rw [trial, Nat.mul_succ, Nat.mul_comm program.states.size]
  omega

theorem trial_injective (stands : program.Stands text item)
    (others : program.Stands text other)
    (same : program.trial item.2.offset item.1 = program.trial other.2.offset other.1) :
    item = other := by
  obtain ⟨number, place⟩ := item
  obtain ⟨otherNumber, otherPlace⟩ := other
  have present : 0 < program.states.size := Nat.zero_lt_of_lt stands.1
  have sameNumber : number = otherNumber := by
    have sameRemainder := congrArg (· % program.states.size) same
    simp only [trial, Nat.mul_add_mod_self_right] at sameRemainder
    rwa [Nat.mod_eq_of_lt stands.1, Nat.mod_eq_of_lt others.1] at sameRemainder
  subst sameNumber
  have sameOffset : place.offset = otherPlace.offset :=
    Nat.eq_of_mul_eq_mul_right present (Nat.add_right_cancel same)
  obtain rfl : place = otherPlace := stands.2.unique others.2 sameOffset
  rfl

theorem wasTried_remember (stands : program.Stands text item)
    (others : program.Stands text other) :
    program.wasTried (program.remember tried item) other = true ↔
      other = item ∨ program.wasTried tried other = true := by
  rw [wasTried, wasTried, remember, Std.TreeSet.contains_insert, Bool.or_eq_true, beq_iff_eq,
    Nat.compare_eq_eq]
  refine or_congr_left ⟨?_, ?_⟩
  · exact fun same => (trial_injective stands others same).symm
  · rintro rfl
    rfl

/-- No more trials are remembered than there are states at places. -/
def Bounded (program : MatchProgram) (text : List Char) (tried : Tried) : Prop :=
  ∀ key ∈ tried, key < program.states.size * (text.length + 1)

theorem Bounded.remember (bounded : program.Bounded text tried)
    (stands : program.Stands text item) :
    program.Bounded text (program.remember tried item) := by
  intro key inside
  rcases Std.TreeSet.mem_insert.mp inside with same | old
  · rw [← Nat.compare_eq_eq.mp same]
    exact trial_lt stands
  · exact bounded key old

theorem Bounded.size_le (bounded : program.Bounded text tried) :
    tried.size ≤ program.states.size * (text.length + 1) := by
  have distinct : tried.toList.Nodup :=
    Std.TreeSet.distinct_toList.imp (fun apart => by simpa using apart)
  have inside : tried.toList ⊆ List.range (program.states.size * (text.length + 1)) := by
    intro key isKey
    exact List.mem_range.mpr (bounded key (Std.TreeSet.mem_toList.mp isKey))
  have shorter := (distinct.subperm inside).length_le
  rwa [List.length_range, Std.TreeSet.length_toList] at shorter

/-- What was tried at `offset` or behind it fails, or a search as deep as `depth` says nothing of
it because its trial is not over. -/
def Explained (program : MatchProgram) (text : List Char) (offset depth : Nat) (tried : Tried) :
    Prop :=
  ∀ item, program.Stands text item → offset ≤ item.2.offset →
    program.wasTried tried item = true →
      program.Comes item none ∨ program.outcome depth item = none

/-- How a search with memory deals with some states at places before it turns to others: it takes
`turns` and remembers `after`. -/
structure Deals (program : MatchProgram) (text : List Char) (offset : Nat)
    (items : List (Nat × Place)) (tried : Tried) (result : Option Place) (turns : Nat)
    (after : Tried) : Prop where
  fails : result = none → ∀ steps others, program.attempt (steps + turns) (items ++ others) tried =
    program.attempt steps others after
  finds : ∀ final, result = some final → ∀ steps others,
    program.attempt (steps + turns) (items ++ others) tried = (some final, after)
  turns_le : turns + 2 * tried.size ≤ items.length + 2 * after.size
  bounded : program.Bounded text tried → program.Bounded text after
  learned : ∀ item, program.Stands text item → offset ≤ item.2.offset →
    program.wasTried after item = true →
      program.wasTried tried item = true ∨ program.Comes item none ∨
        ∃ final, result = some final ∧ item.2.offset ≤ final.offset

theorem Explained.mono {offset less : Nat} (explained : program.Explained text offset depth tried)
    (le : less ≤ depth) : program.Explained text offset less tried := by
  intro item stands behind wasTried
  refine (explained item stands behind wasTried).imp_right fun unknown => ?_
  rcases outcome_none_or_eq le item with lessUnknown | same
  · exact lessUnknown
  · exact same.trans unknown

theorem Deals.explained {offset turns : Nat} {items : List (Nat × Place)} {after : Tried}
    (deals : program.Deals text offset items tried none turns after)
    (explained : program.Explained text offset depth tried) :
    program.Explained text offset depth after := by
  intro item stands behind wasTried
  rcases deals.learned item stands behind wasTried with old | fails | ⟨_, impossible, _⟩
  · exact explained item stands behind old
  · exact Or.inl fails
  · cases impossible

theorem Deals.nil (offset : Nat) : program.Deals text offset [] tried none 0 tried where
  fails := fun _ _ _ => rfl
  finds := nofun
  turns_le := Nat.le_refl _
  bounded := id
  learned := fun _ _ _ old => Or.inl old

/-- Where the first item comes to a match, the others are not looked at. -/
theorem Deals.found {offset turns : Nat} {after : Tried}
    (deals : program.Deals text offset [item] tried (some final) turns after)
    (items : List (Nat × Place)) :
    program.Deals text offset (item :: items) tried (some final) turns after where
  fails := nofun
  finds := by
    rintro _ ⟨⟩ steps others
    exact deals.finds final rfl steps (items ++ others)
  turns_le := by
    have turns_le := deals.turns_le
    rw [List.length_singleton] at turns_le
    rw [List.length_cons]
    omega
  bounded := deals.bounded
  learned := deals.learned

/-- Where the first item fails, the search goes on with the others. -/
theorem Deals.cons {offset turns more : Nat} {items : List (Nat × Place)} {middle after : Tried}
    (head : program.Deals text offset [item] tried none turns middle)
    (tail : program.Deals text offset items middle result more after) :
    program.Deals text offset (item :: items) tried result (more + turns) after where
  fails := by
    intro failed steps others
    rw [← Nat.add_assoc, List.cons_append]
    exact (head.fails rfl (steps + more) (items ++ others)).trans (tail.fails failed steps others)
  finds := by
    intro final found steps others
    rw [← Nat.add_assoc, List.cons_append]
    exact (head.fails rfl (steps + more) (items ++ others)).trans
      (tail.finds final found steps others)
  turns_le := by
    have headTurns := head.turns_le
    have tailTurns := tail.turns_le
    rw [List.length_singleton] at headTurns
    rw [List.length_cons]
    omega
  bounded := fun bounded => tail.bounded (head.bounded bounded)
  learned := by
    intro other stands behind wasTried
    rcases tail.learned other stands behind wasTried with old | new
    · refine (head.learned other stands behind old).imp_right ?_
      rintro (fails | ⟨_, impossible, _⟩)
      · exact Or.inl fails
      · cases impossible
    · exact Or.inr new

/-- Several items are dealt with as each of them is. -/
theorem deals_firstOf {offset : Nat} {items : List (Nat × Place)}
    (each : ∀ item ∈ items, ∀ result tried, program.outcome depth item = some result →
      program.Explained text offset depth tried →
        ∃ turns after, program.Deals text offset [item] tried result turns after)
    (found : firstOf (program.outcome depth) items = some result)
    (explained : program.Explained text offset depth tried) :
    ∃ turns after, program.Deals text offset items tried result turns after := by
  induction items generalizing tried with
  | nil =>
      cases found
      exact ⟨0, tried, .nil offset⟩
  | cons item items ih =>
      rcases firstOf_cons_cases found with ⟨fails, later⟩ | ⟨final, finds, rfl⟩
      · obtain ⟨turns, middle, head⟩ :=
          each item (List.mem_cons_self ..) none tried fails explained
        obtain ⟨more, after, tail⟩ := ih
          (fun other inside => each other (List.mem_cons_of_mem _ inside)) later
          (head.explained explained)
        exact ⟨more + turns, after, head.cons tail⟩
      · obtain ⟨turns, after, head⟩ :=
          each item (List.mem_cons_self ..) (some final) tried finds explained
        exact ⟨turns, after, head.found items⟩

theorem Stands.of_state {number : Nat} {state : MatchState}
    (known : program.states[number]? = some state) (isIn : place.IsIn text) :
    program.Stands text (number, place) := by
  obtain ⟨isState, _⟩ := Array.getElem?_eq_some_iff.mp known
  exact ⟨isState, isIn⟩

/-- A state that is missing or known to fail is passed over. -/
theorem Deals.skip {offset : Nat} (comes : ∀ steps others,
    program.attempt (steps + 1) (item :: others) tried = program.attempt steps others tried) :
    program.Deals text offset [item] tried none 1 tried where
  fails := fun _ => comes
  finds := nofun
  turns_le := Nat.le_refl _
  bounded := id
  learned := fun _ _ _ old => Or.inl old

theorem size_remember (new : program.wasTried tried item = false) :
    (program.remember tried item).size = tried.size + 1 := by
  unfold wasTried at new
  rw [remember, Std.TreeSet.size_insert, if_neg]
  rw [new]
  nofun

theorem Deals.accept {offset number : Nat} (known : program.states[number]? = some .accept)
    (isIn : place.IsIn text) (new : program.wasTried tried (number, place) = false) :
    program.Deals text offset [(number, place)] tried (some place) 1
      (program.remember tried (number, place)) where
  fails := nofun
  finds := by
    rintro _ ⟨⟩ steps others
    unfold wasTried at new
    simp [attempt, known, new, remember]
  turns_le := by
    have grown := size_remember new
    rw [List.length_singleton]
    omega
  bounded := fun bounded => bounded.remember (.of_state known isIn)
  learned := by
    intro other stands behind wasTried
    rcases (wasTried_remember (.of_state known isIn) stands).mp wasTried with rfl | old
    · exact Or.inr (Or.inr ⟨place, rfl, Nat.le_refl _⟩)
    · exact Or.inl old

/-- A state that was not tried yet is dealt with as what it leads to, and remembered. -/
theorem Deals.turn {offset number turns : Nat} {state : MatchState} {after : Tried}
    (known : program.states[number]? = some state) (goesOn : state ≠ .accept)
    (isIn : place.IsIn text) (new : program.wasTried tried (number, place) = false)
    (comes : program.Comes (number, place) result)
    (deals : program.Deals text offset (continuations place state)
      (program.remember tried (number, place)) result turns after) :
    program.Deals text offset [(number, place)] tried result (turns + 1) after := by
  have turn : ∀ steps others,
      program.attempt (steps + (turns + 1)) ((number, place) :: others) tried =
        program.attempt (steps + turns) (continuations place state ++ others)
          (program.remember tried (number, place)) := by
    intro steps others
    unfold wasTried at new
    rw [← Nat.add_assoc]
    cases state with
    | accept => contradiction
    | letter | split | position => simp [attempt, known, new, remember]
  constructor
  · intro failed steps others
    exact (turn steps others).trans (deals.fails failed steps others)
  · intro final found steps others
    exact (turn steps others).trans (deals.finds final found steps others)
  · have turns_le := deals.turns_le
    have atMostTwo := length_continuations place state
    have grown := size_remember new
    rw [List.length_singleton]
    omega
  · exact fun bounded => deals.bounded (bounded.remember (.of_state known isIn))
  · intro other stands behind wasTried
    rcases deals.learned other stands behind wasTried with grown | later
    · rcases (wasTried_remember (.of_state known isIn) stands).mp grown with rfl | old
      · refine Or.inr ?_
        cases result with
        | none => exact Or.inl comes
        | some final =>
            obtain ⟨_, found⟩ := comes
            exact Or.inr ⟨final, rfl, (onward_of_outcome isIn found).2⟩
      · exact Or.inl old
    · exact Or.inr later

/-- A search with memory deals with a state at a place as one without. The induction is on the
depth: where a search that is less deep says what the state comes to, that one is followed, and
otherwise the state itself may be met as one whose trial is not over. -/
theorem deals_item {offset : Nat} (isIn : item.2.IsIn text) (behind : offset ≤ item.2.offset)
    (found : program.outcome depth item = some result)
    (explained : program.Explained text offset depth tried) :
    ∃ turns after, program.Deals text offset [item] tried result turns after := by
  induction depth generalizing item result tried with
  | zero => cases found
  | succ depth ih =>
      rcases outcome_none_or_eq (Nat.le_succ depth) item with unknown | same
      case inr =>
        exact ih isIn behind (same.trans found) (explained.mono (Nat.le_succ depth))
      case inl =>
        obtain ⟨number, place⟩ := item
        have comes : program.Comes (number, place) result := ⟨depth + 1, found⟩
        cases known : program.states[number]? with
        | none =>
            simp only [outcome, known] at found
            cases found
            refine ⟨1, tried, .skip ?_⟩
            intro steps others
            simp [attempt, known]
        | some state =>
            have stands : program.Stands text (number, place) := .of_state known isIn
            cases old : program.wasTried tried (number, place) with
            | true =>
                obtain rfl : result = none := by
                  rcases explained _ stands behind old with fails | unknown
                  · exact comes.unique fails
                  · rw [unknown] at found
                    cases found
                refine ⟨1, tried, .skip ?_⟩
                intro steps others
                unfold wasTried at old
                simp [attempt, known, old]
            | false =>
                by_cases accepts : state = .accept
                · subst accepts
                  simp only [outcome, known] at found
                  cases found
                  exact ⟨1, _, .accept known isIn old⟩
                · rw [outcome_of_state known accepts] at found
                  have grown : program.Explained text offset depth
                      (program.remember tried (number, place)) := by
                    intro other otherStands otherBehind wasTried
                    rcases (wasTried_remember stands otherStands).mp wasTried with rfl | before
                    · exact Or.inr unknown
                    · exact explained.mono (Nat.le_succ depth) other otherStands otherBehind before
                  obtain ⟨turns, after, deals⟩ := deals_firstOf
                    (fun next inside result tried nextFound nextExplained => by
                      obtain ⟨nextIn, nextBehind⟩ := onward_of_continuations isIn inside
                      exact ih nextIn (Nat.le_trans behind nextBehind) nextFound nextExplained)
                    found grown
                  exact ⟨turns + 1, after, .turn known accepts isIn old comes deals⟩

/-! ### Matches -/

/-- What was tried at `offset` or behind it fails. -/
def Settled (program : MatchProgram) (text : List Char) (offset : Nat) (tried : Tried) : Prop :=
  ∀ item, program.Stands text item → offset ≤ item.2.offset →
    program.wasTried tried item = true → program.Comes item none

theorem Settled.mono {offset later : Nat} (settled : program.Settled text offset tried)
    (le : offset ≤ later) : program.Settled text later tried := by
  intro item stands behind
  exact settled item stands (Nat.le_trans le behind)

theorem mem_foldl_erase {key : Nat} (trialOf : Nat → Nat) (numbers : List Nat) (tried : Tried) :
    key ∈ numbers.foldl (fun tried number => tried.erase (trialOf number)) tried ↔
      key ∈ tried ∧ ∀ number ∈ numbers, trialOf number ≠ key := by
  induction numbers generalizing tried with
  | nil => simp
  | cons number numbers ih =>
      rw [List.foldl_cons, ih, Std.TreeSet.mem_erase, List.forall_mem_cons]
      simp only [ne_eq, Nat.compare_eq_eq]
      constructor
      · rintro ⟨⟨apart, inside⟩, others⟩
        exact ⟨inside, apart, others⟩
      · rintro ⟨inside, apart, others⟩
        exact ⟨⟨apart, inside⟩, others⟩

theorem wasTried_forget {offset : Nat} (stands : program.Stands text item)
    (wasTried : program.wasTried (program.forget offset tried) item = true) :
    program.wasTried tried item = true ∧ item.2.offset ≠ offset := by
  obtain ⟨inside, apart⟩ :=
    (mem_foldl_erase (program.trial offset) _ tried).mp (Std.TreeSet.mem_iff_contains.mpr wasTried)
  refine ⟨Std.TreeSet.mem_iff_contains.mp inside, ?_⟩
  rintro rfl
  exact apart item.1 (List.mem_range.mpr stands.1) rfl

theorem Bounded.forget (offset : Nat) (bounded : program.Bounded text tried) :
    program.Bounded text (program.forget offset tried) := by
  intro key inside
  exact bounded key ((mem_foldl_erase (program.trial offset) _ tried).mp inside).1

theorem turns_le_stepBound {offset turns : Nat} {after : Tried}
    (deals : program.Deals text offset [item] tried result turns after)
    (bounded : program.Bounded text tried) : turns ≤ program.stepBound text := by
  have turns_le := deals.turns_le
  have size_le := (deals.bounded bounded).size_le
  rw [List.length_singleton] at turns_le
  have rows : (program.states.size + 1) * (text.length + 1) =
      program.states.size * (text.length + 1) + (text.length + 1) := Nat.succ_mul ..
  rw [stepBound, Nat.mul_assoc, rows]
  omega

/-- The length of a match is found, and what is remembered stays true of what lies behind it. -/
theorem matchLength_spec {steps : Nat} (comes : program.Comes (program.start, place) result)
    (isIn : place.IsIn text) (settled : program.Settled text place.offset tried)
    (bounded : program.Bounded text tried) (enough : program.stepBound text ≤ steps) :
    (program.matchLength steps place tried).1 =
        result.map (fun final => final.offset - place.offset) ∧
      program.Settled text (result.elim place.offset Place.offset)
        (program.matchLength steps place tried).2 ∧
      program.Bounded text (program.matchLength steps place tried).2 := by
  obtain ⟨depth, found⟩ := comes
  obtain ⟨turns, after, deals⟩ := deals_item isIn (Nat.le_refl _) found
    (fun item stands behind wasTried => Or.inl (settled item stands behind wasTried))
  have turns_le := turns_le_stepBound deals bounded
  obtain ⟨spare, rfl⟩ := Nat.exists_eq_add_of_le' (Nat.le_trans turns_le enough)
  unfold matchLength
  cases result with
  | none =>
      have attempted : program.attempt (spare + turns) [(program.start, place)] tried =
          (none, after) := by
        have dealt := deals.fails rfl spare []
        rw [List.append_nil] at dealt
        rw [dealt]
        cases spare <;> rfl
      rw [attempted]
      refine ⟨rfl, ?_, deals.bounded bounded⟩
      intro item stands behind wasTried
      rcases deals.learned item stands behind wasTried with old | fails | ⟨_, impossible, _⟩
      · exact settled item stands behind old
      · exact fails
      · cases impossible
  | some final =>
      have attempted := deals.finds final rfl spare []
      rw [List.append_nil] at attempted
      rw [attempted]
      refine ⟨rfl, ?_, (deals.bounded bounded).forget _⟩
      intro item stands behind wasTried
      obtain ⟨before, elsewhere⟩ := wasTried_forget stands wasTried
      have onward := (onward_of_outcome isIn found).2
      change final.offset ≤ item.2.offset at behind
      rcases deals.learned item stands (Nat.le_trans onward behind) before with
        old | fails | ⟨_, ⟨⟩, notBehind⟩
      · exact settled item stands (Nat.le_trans onward behind) old
      · exact fails
      · exact absurd (Nat.le_antisymm notBehind behind) elsewhere

/-- The matches in a text from left to right, given the length of the match at each place. -/
def matchesBy (lengthAt : Place → Option Nat) (offset : Nat) (before : Option Char)
    (skip : Nat) (afterMatch : Bool) : List Char → List (List Char)
  | [] =>
    if skip == 0 && !afterMatch && lengthAt ⟨offset, before, []⟩ == some 0 then [[]] else []
  | c :: rest =>
    match skip with
    | skip + 1 => matchesBy lengthAt (offset + 1) (some c) skip afterMatch rest
    | 0 =>
      match lengthAt ⟨offset, before, c :: rest⟩ with
      | none => matchesBy lengthAt (offset + 1) (some c) 0 false rest
      | some 0 =>
        (if afterMatch then [] else [[]]) ++
          matchesBy lengthAt (offset + 1) (some c) 0 false rest
      | some (length + 1) =>
        (c :: rest).take (length + 1) ::
          matchesBy lengthAt (offset + 1) (some c) length true rest

/-- How many characters the match at a place has that ends where it is said to end. -/
def lengthTo (final : Place → Option Place) (place : Place) : Option Nat :=
  (final place).map (fun final => final.offset - place.offset)

theorem matchesFrom_eq {final : Place → Option Place}
    (comes : ∀ place, place.IsIn text → program.Comes (program.start, place) (final place))
    {steps : Nat} (enough : program.stepBound text ≤ steps) {offset skip : Nat}
    {before : Option Char} {afterMatch : Bool} {rest : List Char}
    (isIn : Place.IsIn text ⟨offset, before, rest⟩) (inside : skip ≤ rest.length)
    (settled : program.Settled text (offset + skip) tried)
    (bounded : program.Bounded text tried) :
    program.matchesFrom steps offset before skip afterMatch tried rest =
      matchesBy (lengthTo final) offset before skip afterMatch rest := by
  induction rest generalizing offset before skip afterMatch tried with
  | nil =>
      obtain rfl := Nat.le_zero.mp inside
      obtain ⟨isLength, _⟩ := matchLength_spec (comes _ isIn) isIn settled bounded enough
      unfold matchesFrom matchesBy
      rw [isLength, lengthTo]
  | cons c rest ih =>
      have nextIn : Place.IsIn text ⟨offset + 1, some c, rest⟩ := isIn.next rfl
      cases skip with
      | succ skip =>
          unfold matchesFrom matchesBy
          refine ih nextIn (Nat.le_of_succ_le_succ inside) ?_ bounded
          rwa [Nat.add_assoc, Nat.add_comm 1]
      | zero =>
          obtain ⟨isLength, nextSettled, nextBounded⟩ :=
            matchLength_spec (comes _ isIn) isIn settled bounded enough
          unfold matchesFrom matchesBy
          change _ = lengthTo final ⟨offset, before, c :: rest⟩ at isLength
          rw [← isLength]
          generalize program.matchLength steps ⟨offset, before, c :: rest⟩ tried = answer at *
          obtain ⟨found, remembered⟩ := answer
          simp only at isLength nextSettled nextBounded ⊢
          cases ends : final ⟨offset, before, c :: rest⟩ with
          | none =>
              rw [lengthTo, ends, Option.map_none] at isLength
              rw [ends] at nextSettled
              subst isLength
              exact ih nextIn (Nat.zero_le _) (nextSettled.mono (Nat.le_succ offset)) nextBounded
          | some place =>
              rw [lengthTo, ends, Option.map_some] at isLength
              rw [ends] at nextSettled
              subst isLength
              obtain ⟨_, reaches⟩ := comes _ isIn
              rw [ends] at reaches
              obtain ⟨placeIn, onward⟩ := onward_of_outcome isIn reaches
              change offset ≤ place.offset at onward
              change program.Settled text place.offset remembered at nextSettled
              have atMost : place.offset ≤ offset + (rest.length + 1) := by
                obtain ⟨passed, whole, isOffset, _⟩ := isIn
                have le := placeIn.offset_le
                rw [whole, List.length_append] at le
                change offset = passed.length at isOffset
                rw [isOffset]
                exact le
              cases length : place.offset - offset with
              | zero =>
                  refine congrArg (_ ++ ·) (ih nextIn (Nat.zero_le _) ?_ nextBounded)
                  exact nextSettled.mono (by omega)
              | succ length =>
                  refine congrArg (_ :: ·) (ih nextIn (by omega) ?_ nextBounded)
                  exact nextSettled.mono (by omega)

/-- Where every search without memory ends, the matches are those that such searches find. -/
theorem matchesIn_eq {final : Place → Option Place}
    (comes : ∀ place, place.IsIn text → program.Comes (program.start, place) (final place)) :
    program.matchesIn text = matchesBy (lengthTo final) 0 none 0 false text := by
  apply matchesFrom_eq comes (Nat.le_refl _) (Place.isIn_start text) (Nat.zero_le _)
  · intro item _ _ wasTried
    rw [MatchProgram.wasTried, Std.TreeSet.contains_emptyc] at wasTried
    cases wasTried
  · intro key inside
    exact absurd inside Std.TreeSet.not_mem_emptyc

end TexAtlas.MatchProgram
