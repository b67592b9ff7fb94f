/-
The program of a pattern finds what the pattern means. The meaning of a pattern at a place is the
list of the places where a match can end, in order of preference. A pattern is laid out before
other states, and what it comes to there is the first of its ways that comes to something behind
it. This holds where no repetition without a bound can take an empty turn, since otherwise a
search without memory would not end.
-/

import Mathlib.Data.List.Forall2
import Mathlib.Logic.Function.Iterate
import TexAtlas.Proofs.Pattern.Search

namespace TexAtlas

open MatchProgram (Place)

namespace Pattern

/-! ### Ways to match -/

def letterWays (accepted : CharClass) (place : Place) : List Place :=
  match place.rest with
  | [] => []
  | c :: rest =>
    if accepted.accepts c then
      [{ offset := place.offset + 1, before := some c, rest := rest }]
    else []

/-- The ways to match something several times in a row. -/
def timesWays (ways : Place → List Place) : Nat → Place → List Place
  | 0, place => [place]
  | times + 1, place => (ways place).flatMap (timesWays ways times)

/-- To go on comes first where the repetition is greedy, and last otherwise. -/
def forkWays (greedy : Bool) (again done : List Place) : List Place :=
  if greedy then again ++ done else done ++ again

/-- The ways to match something up to several times in a row. -/
def optionalWays (ways : Place → List Place) (greedy : Bool) : Nat → Place → List Place
  | 0, place => [place]
  | times + 1, place =>
    forkWays greedy ((ways place).flatMap (optionalWays ways greedy times)) [place]

/-- The places where a match can end that begins at a place, in order of preference. A repetition
without a bound cannot take more turns than there are characters left. -/
def ways : Pattern → Place → List Place
  | empty, place => [place]
  | letter accepted, place => letterWays accepted place
  | position assertion, place =>
    if assertion.holds place.before place.rest.head? then [place] else []
  | sequence first second, place => (first.ways place).flatMap second.ways
  | choice preferred other, place => preferred.ways place ++ other.ways place
  | repeated body low (some high) greedy, place =>
    (timesWays body.ways low place).flatMap (optionalWays body.ways greedy (high - low))
  | repeated body low none greedy, place =>
    (timesWays body.ways low place).flatMap
      (fun middle => optionalWays body.ways greedy middle.rest.length middle)

/-- Whether every turn of a repetition without a bound takes a character. -/
def isProductive : Pattern → Bool
  | empty => true
  | letter _ => true
  | position _ => true
  | sequence first second => first.isProductive && second.isProductive
  | choice preferred other => preferred.isProductive && other.isProductive
  | repeated body _ high _ => body.isProductive && (high.isSome || body.consumes)

variable {ways : Place → List Place} {greedy : Bool} {place final : Place} {times : Nat}

theorem mem_forkWays {again done : List Place} :
    final ∈ forkWays greedy again done ↔ final ∈ again ∨ final ∈ done := by
  cases greedy with
  | true => exact List.mem_append
  | false => exact List.mem_append.trans or_comm

/-- The last time can be told apart as well as the first one. -/
theorem timesWays_succ (ways : Place → List Place) (times : Nat) (place : Place) :
    timesWays ways (times + 1) place = (timesWays ways times place).flatMap ways := by
  induction times generalizing place with
  | zero =>
      change (ways place).flatMap (fun middle => [middle]) = [place].flatMap ways
      rw [List.flatMap_singleton', List.flatMap_singleton]
  | succ times ih =>
      rw [timesWays, timesWays, List.flatMap_assoc]
      exact List.flatMap_congr (fun middle _ => ih middle)

theorem mem_optionalWays_iff :
    final ∈ optionalWays ways greedy times place ↔
      ∃ turns ≤ times, final ∈ timesWays ways turns place := by
  induction times generalizing place with
  | zero =>
      constructor
      · exact fun isPlace => ⟨0, Nat.le_refl _, isPlace⟩
      · rintro ⟨turns, le, inside⟩
        obtain rfl := Nat.le_zero.mp le
        exact inside
  | succ times ih =>
      rw [optionalWays, mem_forkWays, List.mem_flatMap]
      constructor
      · rintro (⟨middle, isMiddle, later⟩ | isPlace)
        · obtain ⟨turns, le, inside⟩ := ih.mp later
          exact ⟨turns + 1, Nat.succ_le_succ le, List.mem_flatMap.mpr ⟨middle, isMiddle, inside⟩⟩
        · exact ⟨0, Nat.zero_le _, isPlace⟩
      · rintro ⟨turns, le, inside⟩
        cases turns with
        | zero => exact Or.inr inside
        | succ turns =>
            obtain ⟨middle, isMiddle, later⟩ := List.mem_flatMap.mp inside
            exact Or.inl ⟨middle, isMiddle, ih.mpr ⟨turns, Nat.le_of_succ_le_succ le, later⟩⟩

/-! ### How far a match goes -/

/-- Ways that end no earlier than they begin, and later where they have to. -/
def Advances (strictly : Bool) (ways : Place → List Place) : Prop :=
  ∀ place, ∀ final ∈ ways place,
    final.rest.length + (if strictly then 1 else 0) ≤ place.rest.length

theorem Advances.relax {strictly weaker : Bool} (advances : Advances strictly ways)
    (less : weaker = true → strictly = true) : Advances weaker ways := by
  intro place final inside
  have le := advances place final inside
  cases weaker with
  | true => rwa [less rfl] at le
  | false =>
      simp only [Bool.false_eq_true, if_false]
      omega

theorem Advances.lt (advances : Advances true ways) (inside : final ∈ ways place) :
    final.rest.length < place.rest.length :=
  advances place final inside

theorem Advances.le (advances : Advances true ways) (inside : final ∈ ways place) :
    final.rest.length ≤ place.rest.length :=
  Nat.le_of_lt (advances.lt inside)

theorem Advances.timesWays (advances : Advances false ways) (times : Nat) :
    Advances false (timesWays ways times) := by
  induction times with
  | zero =>
      intro place final inside
      obtain rfl := List.mem_singleton.mp inside
      exact Nat.le_refl _
  | succ times ih =>
      intro place final inside
      obtain ⟨middle, isMiddle, later⟩ := List.mem_flatMap.mp inside
      exact Nat.le_trans (ih middle final later) (advances place middle isMiddle)

theorem Advances.length_timesWays (advances : Advances true ways)
    (inside : final ∈ Pattern.timesWays ways times place) :
    final.rest.length + times ≤ place.rest.length := by
  induction times generalizing place with
  | zero =>
      obtain rfl := List.mem_singleton.mp inside
      exact Nat.le_refl _
  | succ times ih =>
      obtain ⟨middle, isMiddle, later⟩ := List.mem_flatMap.mp inside
      have first := advances.lt isMiddle
      have others := ih later
      omega

theorem Advances.optionalWays (advances : Advances false ways) (greedy : Bool) (times : Nat) :
    Advances false (optionalWays ways greedy times) := by
  intro place final inside
  obtain ⟨turns, _, later⟩ := mem_optionalWays_iff.mp inside
  exact advances.timesWays turns place final later

/-- A repetition of something that takes characters takes some as soon as it has a turn. -/
theorem Advances.timesWays_of_pos (advances : Advances true ways) (positive : 0 < times) :
    Advances true (Pattern.timesWays ways times) := by
  intro place final inside
  have le := advances.length_timesWays inside
  simp only [if_true]
  omega

theorem Advances.flatMap {left right : Bool} {others : Place → List Place}
    (advances : Advances left ways) (later : Advances right others) :
    Advances (left || right) (fun place => (ways place).flatMap others) := by
  intro place final inside
  obtain ⟨middle, isMiddle, isFinal⟩ := List.mem_flatMap.mp inside
  have first := advances place middle isMiddle
  have second := later middle final isFinal
  cases left <;> cases right <;> simp at first second ⊢ <;> omega

/-- A match never ends before it begins, and takes a character where it has to. -/
theorem advances_ways (pattern : Pattern) : Advances pattern.consumes pattern.ways := by
  induction pattern with
  | empty =>
      intro place final inside
      obtain rfl := List.mem_singleton.mp inside
      exact Nat.le_refl _
  | letter accepted =>
      intro place final inside
      rw [Pattern.ways, letterWays] at inside
      split at inside
      · cases inside
      · rename_i c rest more
        split at inside
        · obtain rfl := List.mem_singleton.mp inside
          rw [more]
          exact Nat.le_refl _
        · cases inside
  | position assertion =>
      intro place final inside
      rw [Pattern.ways] at inside
      split at inside
      · obtain rfl := List.mem_singleton.mp inside
        exact Nat.le_refl _
      · cases inside
  | sequence first second ihFirst ihSecond => exact ihFirst.flatMap ihSecond
  | choice preferred other ihPreferred ihOther =>
      intro place final inside
      rcases List.mem_append.mp inside with isPreferred | isOther
      · refine ihPreferred.relax ?_ place final isPreferred
        exact fun both => (Bool.and_eq_true_iff.mp both).1
      · refine ihOther.relax ?_ place final isOther
        exact fun both => (Bool.and_eq_true_iff.mp both).2
  | repeated body low high greedy ih =>
      have stays : Advances false body.ways := ih.relax nofun
      have turns : Advances (decide (0 < low) && body.consumes) (timesWays body.ways low) := by
        by_cases takes : 0 < low ∧ body.consumes = true
        · rw [takes.2] at ih ⊢
          simpa [takes.1] using ih.timesWays_of_pos takes.1
        · have never : (decide (0 < low) && body.consumes) = false := by
            simpa [Bool.and_eq_false_iff, not_and] using takes
          rw [never]
          exact stays.timesWays low
      rw [← Bool.or_false (consumes _)]
      cases high with
      | some high => exact turns.flatMap (stays.optionalWays greedy (high - low))
      | none =>
          apply turns.flatMap
          intro middle
          exact stays.optionalWays greedy middle.rest.length middle

end Pattern

/-! ### What states come to -/

namespace MatchProgram

variable {program : MatchProgram} {number : Nat} {place : Place} {state : MatchState}

theorem comes_accept (known : program.states[number]? = some .accept) (place : Place) :
    program.Comes (number, place) (some place) := by
  refine ⟨1, ?_⟩
  simp [outcome, known]

theorem exists_depth {items : List (Nat × Place)} {results : List (Option Place)}
    (comes : List.Forall₂ program.Comes items results) :
    ∃ depth, firstOf (program.outcome depth) items = some (results.findSome? id) := by
  induction comes with
  | nil => exact ⟨0, rfl⟩
  | @cons item result items results comes _ ih =>
      obtain ⟨depth, found⟩ := comes
      obtain ⟨deeper, others⟩ := ih
      have head := outcome_mono (Nat.le_max_left depth deeper) found
      have tail := firstOf_mono
        (fun _ _ found => outcome_mono (Nat.le_max_right depth deeper) found) others
      refine ⟨max depth deeper, ?_⟩
      rw [firstOf, head]
      cases result with
      | none => exact tail
      | some final => rfl

/-- A state comes to what the first of its continuations comes to that comes to a match. -/
theorem comes_of_continuations {results : List (Option Place)}
    (known : program.states[number]? = some state) (goesOn : state ≠ .accept)
    (comes : List.Forall₂ program.Comes (continuations place state) results) :
    program.Comes (number, place) (results.findSome? id) := by
  obtain ⟨depth, found⟩ := exists_depth comes
  refine ⟨depth + 1, ?_⟩
  rw [outcome_of_state known goesOn, found]

theorem comes_onward {next : Nat} {places : List Place} {finals : Place → Option Place}
    (known : program.states[number]? = some state) (goesOn : state ≠ .accept)
    (leads : continuations place state = places.map (fun final => (next, final)))
    (comes : ∀ final ∈ places, program.Comes (next, final) (finals final)) :
    program.Comes (number, place) (places.findSome? finals) := by
  have each : List.Forall₂ program.Comes (continuations place state) (places.map finals) := by
    rw [leads, List.forall₂_map_left_iff, List.forall₂_map_right_iff]
    exact List.forall₂_same.mpr comes
  have found := comes_of_continuations known goesOn each
  rwa [List.findSome?_map] at found

theorem comes_split {preferred other : Nat} {left right : Option Place}
    (known : program.states[number]? = some (.split preferred other))
    (comesLeft : program.Comes (preferred, place) left)
    (comesRight : program.Comes (other, place) right) :
    program.Comes (number, place) (left.or right) := by
  have comes := comes_of_continuations known nofun (.cons comesLeft (.cons comesRight .nil))
  cases left <;> cases right <;> exact comes

end MatchProgram

namespace Pattern

open MatchProgram (continuations)

/-! ### Layouts -/

/-- Everything laid out before stays where it is. -/
def Extends (states laid : Array MatchState) : Prop :=
  states.size ≤ laid.size ∧ ∀ index < states.size, laid[index]? = states[index]?

/-- A program has the states of a layout from some number on. -/
def Holds (program : MatchProgram) (start : Nat) (laid : Array MatchState) : Prop :=
  ∀ index, start ≤ index → index < laid.size → program.states[index]? = laid[index]?

variable {states middle laid : Array MatchState} {program : MatchProgram}
  {ways : Place → List Place} {greedy : Bool} {place : Place}

theorem Extends.refl (states : Array MatchState) : Extends states states :=
  ⟨Nat.le_refl _, fun _ _ => rfl⟩

theorem Extends.trans (first : Extends states middle) (second : Extends middle laid) :
    Extends states laid :=
  ⟨Nat.le_trans first.1 second.1, fun index inside =>
    (second.2 index (Nat.lt_of_lt_of_le inside first.1)).trans (first.2 index inside)⟩

theorem extends_addState (state : MatchState) (states : Array MatchState) :
    Extends states (addState state states).2 := by
  refine ⟨?_, ?_⟩
  · rw [addState, Array.size_push]
    exact Nat.le_succ _
  · intro index inside
    rw [addState, Array.getElem?_push_lt inside, Array.getElem?_eq_getElem inside]

theorem Holds.before {start : Nat} (holds : Holds program start laid)
    (extend : Extends middle laid) : Holds program start middle := by
  intro index behind inside
  rw [holds index behind (Nat.lt_of_lt_of_le inside extend.1), extend.2 index inside]

theorem Holds.behind {start later : Nat} (holds : Holds program start laid)
    (le : start ≤ later) : Holds program later laid :=
  fun index behind => holds index (Nat.le_trans le behind)

theorem Holds.added {start : Nat} {state : MatchState}
    (holds : Holds program start (addState state states).2) (le : start ≤ states.size) :
    program.states[states.size]? = some state := by
  rw [holds states.size le (by rw [addState, Array.size_push]; exact Nat.lt_succ_self _), addState,
    Array.getElem?_push_size]

/-- A layout of something: whatever is laid out behind it, it comes to the first of its ways that
comes to a match there. -/
structure Lays (lay : Nat → Array MatchState → Nat × Array MatchState)
    (ways : Place → List Place) : Prop where
  extend : ∀ next states, Extends states (lay next states).2
  comes : ∀ next states program place finals,
    Holds program states.size (lay next states).2 →
    (∀ final ∈ ways place, program.Comes (next, final) (finals final)) →
    program.Comes ((lay next states).1, place) ((ways place).findSome? finals)

theorem findSome?_flatMap {α β γ : Type} (items : List α) (others : α → List β)
    (found : β → Option γ) : (items.flatMap others).findSome? found =
      items.findSome? (fun item => (others item).findSome? found) := by
  induction items with
  | nil => rfl
  | cons item items ih =>
      rw [List.flatMap_cons, List.findSome?_append, ih, List.findSome?_cons]
      cases (others item).findSome? found <;> rfl

variable {lay : Nat → Array MatchState → Nat × Array MatchState} {next : Nat}

/-- What a fork comes to, from what it comes to where it goes on and where it is done. -/
def forkResult (greedy : Bool) (again done : Option Place) : Option Place :=
  if greedy then again.or done else done.or again

theorem findSome?_forkWays (again done : List Place) (finals : Place → Option Place) :
    (forkWays greedy again done).findSome? finals =
      forkResult greedy (again.findSome? finals) (done.findSome? finals) := by
  cases greedy <;> exact List.findSome?_append

theorem comes_splitState {number start done : Nat} {again finish : Option Place}
    (known : program.states[number]? = some (splitState greedy start done))
    (comesAgain : program.Comes (start, place) again)
    (comesDone : program.Comes (done, place) finish) :
    program.Comes (number, place) (forkResult greedy again finish) := by
  cases greedy with
  | true => exact MatchProgram.comes_split known comesAgain comesDone
  | false => exact MatchProgram.comes_split known comesDone comesAgain

theorem lays_empty : Lays empty.lay empty.ways where
  extend := fun _ states => .refl states
  comes := by
    intro next states program place finals _ comes
    have only := comes place (List.mem_singleton_self place)
    rw [Pattern.ways, List.findSome?_singleton]
    exact only

theorem lays_letter (accepted : CharClass) : Lays (letter accepted).lay (letter accepted).ways where
  extend := fun next states => extends_addState _ states
  comes := by
    intro next states program place finals holds
    apply MatchProgram.comes_onward (holds.added (Nat.le_refl _)) nofun
    simp only [continuations, Pattern.ways, letterWays]
    cases place.rest with
    | nil => rfl
    | cons c rest => cases taken : accepted.accepts c <;> simp [taken]

theorem lays_position (assertion : Assertion) :
    Lays (position assertion).lay (position assertion).ways where
  extend := fun next states => extends_addState _ states
  comes := by
    intro next states program place finals holds
    apply MatchProgram.comes_onward (holds.added (Nat.le_refl _)) nofun
    simp only [continuations, Pattern.ways]
    cases assertion.holds place.before place.rest.head? <;> rfl

/-- What is laid out before something else goes on with that. -/
theorem Lays.sequence {layLater : Nat → Array MatchState → Nat × Array MatchState}
    {later : Place → List Place} (lays : Lays lay ways) (others : Lays layLater later) :
    Lays (fun next states => lay (layLater next states).1 (layLater next states).2)
      (fun place => (ways place).flatMap later) where
  extend := fun next states =>
    (others.extend next states).trans (lays.extend _ _)
  comes := by
    intro next states program place finals holds comes
    have later := others.extend next states
    rw [findSome?_flatMap]
    apply lays.comes _ _ program place _ (holds.behind later.1)
    intro middle isMiddle
    apply others.comes _ _ program middle finals (holds.before (lays.extend _ _))
    intro final isFinal
    exact comes final (List.mem_flatMap.mpr ⟨middle, isMiddle, isFinal⟩)

theorem Lays.choice {layOther : Nat → Array MatchState → Nat × Array MatchState}
    {others : Place → List Place} (lays : Lays lay ways) (other : Lays layOther others) :
    Lays (fun next states =>
        addState (.split (lay next states).1 (layOther next (lay next states).2).1)
          (layOther next (lay next states).2).2)
      (fun place => ways place ++ others place) where
  extend := fun next states =>
    ((lays.extend next states).trans (other.extend _ _)).trans (extends_addState _ _)
  comes := by
    intro next states program place finals holds comes
    have left := lays.extend next states
    have right := other.extend next (lay next states).2
    have forked := extends_addState
      (.split (lay next states).1 (layOther next (lay next states).2).1)
      (layOther next (lay next states).2).2
    rw [List.findSome?_append]
    apply MatchProgram.comes_split (holds.added (left.trans right).1)
    · apply lays.comes _ _ program place finals ((holds.before forked).before right)
      exact fun final inside => comes final (List.mem_append_left _ inside)
    · apply other.comes _ _ program place finals ((holds.before forked).behind left.1)
      exact fun final inside => comes final (List.mem_append_right _ inside)

theorem Lays.times (lays : Lays lay ways) (times : Nat) :
    Lays (layTimes lay times) (timesWays ways times) := by
  induction times with
  | zero =>
      constructor
      · exact fun _ states => .refl states
      · intro next states program place finals _ comes
        have only := comes place (List.mem_singleton_self place)
        rw [timesWays, List.findSome?_singleton]
        exact only
  | succ times ih =>
      have both := ih.sequence lays
      constructor
      · exact both.extend
      · intro next states program place finals holds comes
        rw [timesWays_succ] at comes ⊢
        exact both.comes next states program place finals holds comes

/-- What one more turn comes to, where `again` is what comes behind it and `finals` what comes of
taking none. -/
def turnResult (ways : Place → List Place) (greedy : Bool) (finals again : Place → Option Place)
    (place : Place) : Option Place :=
  forkResult greedy ((ways place).findSome? again) (finals place)

theorem findSome?_optionalWays (finals : Place → Option Place) (times : Nat) (place : Place) :
    (optionalWays ways greedy times place).findSome? finals =
      (turnResult ways greedy finals)^[times] finals place := by
  induction times generalizing place with
  | zero => exact List.findSome?_singleton
  | succ times ih =>
      rw [optionalWays, findSome?_forkWays, findSome?_flatMap, List.findSome?_singleton,
        Function.iterate_succ_apply']
      simp only [ih]
      rfl

theorem Lays.extend_layOptional (lays : Lays lay ways) (greedy : Bool) (done times next : Nat)
    (states : Array MatchState) :
    Extends states (layOptional lay greedy done times next states).2 := by
  induction times generalizing next states with
  | zero => exact .refl states
  | succ times ih =>
      exact ((lays.extend next states).trans (extends_addState _ _)).trans (ih _ _)

/-- Turns are laid out from the last one to the first. -/
theorem Lays.comes_layOptional (lays : Lays lay ways) {done times : Nat}
    {finals : Place → Option Place} (next : Nat) (states : Array MatchState)
    (again : Place → Option Place)
    (holds : Holds program states.size (layOptional lay greedy done times next states).2)
    (comesDone : ∀ turns < times, ∀ final ∈ timesWays ways turns place,
      program.Comes (done, final) (finals final))
    (comesNext : ∀ final ∈ timesWays ways times place, program.Comes (next, final) (again final)) :
    program.Comes ((layOptional lay greedy done times next states).1, place)
      ((turnResult ways greedy finals)^[times] again place) := by
  induction times generalizing next states again with
  | zero => exact comesNext place (List.mem_singleton_self place)
  | succ times ih =>
      have laid := lays.extend next states
      have forked :=
        extends_addState (splitState greedy (lay next states).1 done) (lay next states).2
      have later := lays.extend_layOptional greedy done times
        (addState (splitState greedy (lay next states).1 done) (lay next states).2).1
        (addState (splitState greedy (lay next states).1 done) (lay next states).2).2
      rw [Function.iterate_succ_apply]
      apply ih
      · exact holds.behind (laid.trans forked).1
      · exact fun turns less => comesDone turns (Nat.lt_succ_of_lt less)
      · intro middle isMiddle
        apply comes_splitState ((holds.before later).added laid.1)
        · apply lays.comes _ _ program middle again ((holds.before later).before forked)
          intro final isFinal
          apply comesNext
          rw [timesWays_succ]
          exact List.mem_flatMap.mpr ⟨middle, isMiddle, isFinal⟩
        · exact comesDone times (Nat.lt_succ_self times) middle isMiddle

theorem Lays.optional (lays : Lays lay ways) (greedy : Bool) (times : Nat) :
    Lays (fun next states => layOptional lay greedy next times next states)
      (optionalWays ways greedy times) where
  extend := fun next states => lays.extend_layOptional greedy next times next states
  comes := by
    intro next states program place finals holds comes
    rw [findSome?_optionalWays]
    apply lays.comes_layOptional next states finals holds
    · exact fun turns less final inside =>
        comes final (mem_optionalWays_iff.mpr ⟨turns, Nat.le_of_lt less, inside⟩)
    · exact fun final inside =>
        comes final (mem_optionalWays_iff.mpr ⟨times, Nat.le_refl _, inside⟩)

/-! ### Loops -/

/-- The ways to match something any number of times in a row, where each turn takes a character. -/
def loopWays (ways : Place → List Place) (greedy : Bool) (place : Place) : List Place :=
  optionalWays ways greedy place.rest.length place

theorem optionalWays_of_enough (advances : Advances true ways) {few many : Nat}
    (enough : place.rest.length ≤ few) (le : few ≤ many) :
    optionalWays ways greedy many place = optionalWays ways greedy few place := by
  induction few generalizing many place with
  | zero =>
      have stuck : ways place = [] := by
        rw [List.eq_nil_iff_forall_not_mem]
        intro final inside
        have shorter := advances.lt inside
        omega
      cases many with
      | zero => rfl
      | succ many =>
          rw [optionalWays, optionalWays, stuck, List.flatMap_nil]
          cases greedy <;> rfl
  | succ few ih =>
      obtain ⟨many, rfl⟩ := Nat.exists_eq_add_of_le' le
      change optionalWays ways greedy (many + few + 1) place = _
      rw [optionalWays, optionalWays]
      refine congrArg (forkWays greedy · [place]) (List.flatMap_congr fun middle isMiddle => ?_)
      have shorter := advances.lt isMiddle
      exact ih (by omega) (Nat.le_add_left few many)

/-- A loop is left at once, or goes on as it began behind one more turn. -/
theorem loopWays_eq (advances : Advances true ways) (place : Place) :
    loopWays ways greedy place =
      forkWays greedy ((ways place).flatMap (loopWays ways greedy)) [place] := by
  rw [loopWays, ← optionalWays_of_enough advances (Nat.le_refl _) (Nat.le_succ _), optionalWays]
  refine congrArg (forkWays greedy · [place]) (List.flatMap_congr fun middle isMiddle => ?_)
  exact optionalWays_of_enough advances (Nat.le_refl _) (advances.le isMiddle)

theorem self_mem_loopWays (advances : Advances true ways) (place : Place) :
    place ∈ loopWays ways greedy place := by
  rw [loopWays_eq advances, mem_forkWays]
  exact Or.inr (List.mem_singleton_self place)

theorem mem_loopWays_of_turn (advances : Advances true ways) {middle final : Place}
    (turn : middle ∈ ways place) (inside : final ∈ loopWays ways greedy middle) :
    final ∈ loopWays ways greedy place := by
  rw [loopWays_eq advances, mem_forkWays, List.mem_flatMap]
  exact Or.inl ⟨middle, turn, inside⟩

/-- The body of a loop is laid out before the fork that ends each turn. -/
theorem layLoop_eq (lay : Nat → Array MatchState → Nat × Array MatchState) (greedy : Bool)
    (next : Nat) (states : Array MatchState) :
    layLoop lay greedy next states =
      ((lay states.size (states.push .accept)).1, states.size,
        (lay states.size (states.push .accept)).2.setIfInBounds states.size
          (splitState greedy (lay states.size (states.push .accept)).1 next)) :=
  rfl

theorem Lays.extend_layLoop (lays : Lays lay ways) (next : Nat) (states : Array MatchState) :
    Extends states (layLoop lay greedy next states).2.2 := by
  have laid := (extends_addState .accept states).trans (lays.extend states.size _)
  rw [layLoop_eq]
  refine ⟨?_, ?_⟩
  · rw [Array.size_setIfInBounds]
    exact laid.1
  · intro index inside
    rw [Array.getElem?_setIfInBounds_ne (Nat.ne_of_gt inside)]
    exact laid.2 index inside

theorem Lays.holds_layLoop (lays : Lays lay ways)
    (holds : Holds program states.size (layLoop lay greedy next states).2.2) :
    program.states[states.size]? =
        some (splitState greedy (layLoop lay greedy next states).1 next) ∧
      Holds program (states.push .accept).size (lay states.size (states.push .accept)).2 := by
  have grown := (lays.extend states.size (states.push .accept)).1
  rw [layLoop_eq] at holds ⊢
  rw [Array.size_push] at grown ⊢
  refine ⟨?_, ?_⟩
  · rw [holds states.size (Nat.le_refl _) (by rwa [Array.size_setIfInBounds]),
      Array.getElem?_setIfInBounds_self_of_lt grown]
  · intro index behind inside
    rw [holds index (Nat.le_of_succ_le behind) (by rwa [Array.size_setIfInBounds]),
      Array.getElem?_setIfInBounds_ne (Nat.ne_of_lt behind)]

/-- The fork of a loop. The induction is on the characters that are left. -/
theorem Lays.comes_fork (lays : Lays lay ways) (advances : Advances true ways)
    {finals : Place → Option Place}
    (holds : Holds program states.size (layLoop lay greedy next states).2.2)
    (comes : ∀ final ∈ loopWays ways greedy place, program.Comes (next, final) (finals final)) :
    program.Comes ((layLoop lay greedy next states).2.1, place)
      ((loopWays ways greedy place).findSome? finals) := by
  obtain ⟨known, holdsBody⟩ := lays.holds_layLoop holds
  generalize isLength : place.rest.length = length
  induction length using Nat.strongRecOn generalizing place with
  | ind length ih =>
      rw [loopWays_eq advances, findSome?_forkWays, findSome?_flatMap, List.findSome?_singleton]
      apply comes_splitState known
      · apply lays.comes _ _ program place _ holdsBody
        intro middle isMiddle
        have shorter := advances.lt isMiddle
        exact ih middle.rest.length (by omega)
          (fun final inside => comes final (mem_loopWays_of_turn advances isMiddle inside)) rfl
      · exact comes place (self_mem_loopWays advances place)

theorem Lays.loop (lays : Lays lay ways) (advances : Advances true ways) (greedy : Bool) :
    Lays (fun next states => (layLoop lay greedy next states).2) (loopWays ways greedy) where
  extend := lays.extend_layLoop
  comes := fun _ _ _ _ _ holds comes => lays.comes_fork advances holds comes

/-- A loop that begins with a turn. -/
theorem Lays.loopOnce (lays : Lays lay ways) (advances : Advances true ways) (greedy : Bool) :
    Lays (fun next states =>
        ((layLoop lay greedy next states).1, (layLoop lay greedy next states).2.2))
      (fun place => (ways place).flatMap (loopWays ways greedy)) where
  extend := lays.extend_layLoop
  comes := by
    intro next states program place finals holds comes
    rw [findSome?_flatMap]
    apply lays.comes _ _ program place _ (lays.holds_layLoop holds).2
    intro middle isMiddle
    apply lays.comes_fork advances holds
    exact fun final isFinal => comes final (List.mem_flatMap.mpr ⟨middle, isMiddle, isFinal⟩)

/-! ### Patterns -/

/-- A pattern is laid out as its meaning says. There is one case for each operator. -/
theorem lays_lay (pattern : Pattern) (productive : pattern.isProductive = true) :
    Lays pattern.lay pattern.ways := by
  induction pattern with
  | empty => exact lays_empty
  | letter accepted => exact lays_letter accepted
  | position assertion => exact lays_position assertion
  | sequence first second ihFirst ihSecond =>
      obtain ⟨productiveFirst, productiveSecond⟩ := Bool.and_eq_true_iff.mp productive
      exact (ihFirst productiveFirst).sequence (ihSecond productiveSecond)
  | choice preferred other ihPreferred ihOther =>
      obtain ⟨productivePreferred, productiveOther⟩ := Bool.and_eq_true_iff.mp productive
      exact (ihPreferred productivePreferred).choice (ihOther productiveOther)
  | repeated body low high greedy ih =>
      obtain ⟨productiveBody, takes⟩ := Bool.and_eq_true_iff.mp productive
      have lays := ih productiveBody
      cases high with
      | some high => exact (lays.times low).sequence (lays.optional greedy (high - low))
      | none =>
          have consumes : body.consumes = true := takes
          have advances : Advances true body.ways := by
            have advances := advances_ways body
            rwa [consumes] at advances
          cases low with
          | zero =>
              have laid : (repeated body 0 none greedy).lay =
                  fun next states => (layLoop body.lay greedy next states).2 := by
                funext next states
                simp only [lay, layLoop_eq, consumes, if_true]
              have means : (repeated body 0 none greedy).ways = loopWays body.ways greedy := by
                funext place
                exact List.flatMap_singleton _ place
              rw [laid, means]
              exact lays.loop advances greedy
          | succ low =>
              have means : (repeated body (low + 1) none greedy).ways =
                  fun place => (timesWays body.ways low place).flatMap
                    (fun middle => (body.ways middle).flatMap (loopWays body.ways greedy)) := by
                funext place
                rw [Pattern.ways, timesWays_succ, List.flatMap_assoc]
                rfl
              rw [means]
              exact (lays.times low).sequence (lays.loopOnce advances greedy)

/-- The program of a pattern comes to the end of its preferred match at every place. -/
theorem comes_program (pattern : Pattern) (productive : pattern.isProductive = true)
    (place : Place) :
    pattern.program.Comes (pattern.program.start, place) (pattern.ways place).head? := by
  have first : (pattern.ways place).findSome? some = (pattern.ways place).head? := by
    cases pattern.ways place <;> rfl
  rw [← first]
  apply (lays_lay pattern productive).comes 0 #[.accept]
  · exact fun _ _ _ => rfl
  · intro final _
    apply MatchProgram.comes_accept
    exact (lays_lay pattern productive).extend 0 #[.accept] |>.2 0 Nat.zero_lt_one

/-- What a search with the program of a pattern finds in a text: from left to right, at each place
that is not part of a match before, the first of the ways to match there. -/
theorem matchesIn_program (pattern : Pattern) (productive : pattern.isProductive = true)
    (text : List Char) :
    pattern.program.matchesIn text =
      MatchProgram.matchesBy (MatchProgram.lengthTo fun place => (pattern.ways place).head?)
        0 none 0 false text :=
  MatchProgram.matchesIn_eq fun place _ => comes_program pattern productive place

end Pattern

end TexAtlas
