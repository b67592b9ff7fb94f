/-
Parallel runs in any order. The scheduler decides which move comes next, so a run is any
list of possible moves. Whatever the list is, the permits bound the live tasks, a move is
always possible until all tasks are collected, and three moves a task lead there.
-/

import Mathlib.Logic.Relation
import TexAtlas.Proofs.TaskPool

namespace TexAtlas.TaskPool

variable {α : Type}

namespace Progress

/-- The progress after some moves, if each of them is possible when its turn comes. -/
def follow? (capacity : Nat) (progress : Progress α) (moves : List Move) : Option (Progress α) :=
  moves.foldlM (fun progress move => progress.move? capacity move) progress

/-- A chain of steps is a list of moves. -/
theorem exists_moves_iff {capacity : Nat} {progress last : Progress α} :
    (∃ moves, progress.follow? capacity moves = some last) ↔
      Relation.ReflTransGen (Step capacity) progress last := by
  constructor
  · rintro ⟨moves, went⟩
    induction moves generalizing progress with
    | nil =>
        cases went
        exact Relation.ReflTransGen.refl
    | cons move moves ih =>
        rw [follow?, List.foldlM_cons] at went
        obtain ⟨next, moved, rest⟩ := Option.bind_eq_some_iff.mp went
        exact (ih rest).head ⟨move, moved⟩
  · intro steps
    induction steps using Relation.ReflTransGen.head_induction_on with
    | refl => exact ⟨[], rfl⟩
    | head step _ ih =>
        obtain ⟨move, moved⟩ := step
        obtain ⟨moves, went⟩ := ih
        refine ⟨move :: moves, ?_⟩
        rw [follow?, List.foldlM_cons, moved]
        exact went

/-- What holds at every moment of a parallel run: the tasks are accounted for, every live
task holds one of the permits, and each move so far brought the end one move closer. -/
structure OnCourse (capacity : Nat) (tasks : List (Outcome α)) (made : Nat)
    (progress : Progress α) : Prop where
  accounts : progress.Accounts tasks
  permitted : progress.live.length ≤ capacity
  counted : made + progress.remaining = 3 * tasks.length

theorem onCourse_initial (capacity : Nat) (tasks : List (Outcome α)) :
    (initial tasks).OnCourse capacity tasks 0 where
  accounts := accounts_initial tasks
  permitted := Nat.zero_le capacity
  counted := by rw [remaining_initial, Nat.zero_add]

/-- Only a start makes a task live, and it waits for a free permit. -/
theorem live_move {capacity : Nat} {progress next : Progress α} {move : Move}
    (permitted : progress.live.length ≤ capacity)
    (moved : progress.move? capacity move = some next) : next.live.length ≤ capacity := by
  cases move with
  | start =>
      simp only [move?] at moved
      split at moved
      · cases moved
      · split at moved
        · rename_i free
          cases moved
          rw [List.length_append, List.length_singleton]
          exact free
        · cases moved
  | finish position =>
      simp only [move?] at moved
      split at moved
      · cases moved
      · cases moved
        exact Nat.le_trans (List.length_eraseIdx_le ..) permitted
  | collect position =>
      simp only [move?] at moved
      split at moved
      · cases moved
        exact permitted
      · cases moved

theorem OnCourse.move {capacity : Nat} {tasks : List (Outcome α)} {made : Nat}
    {progress next : Progress α} {move : Move} (course : progress.OnCourse capacity tasks made)
    (moved : progress.move? capacity move = some next) :
    next.OnCourse capacity tasks (made + 1) where
  accounts := accounts_move course.accounts moved
  permitted := live_move course.permitted moved
  counted := by
    have closer := remaining_move moved
    have counted := course.counted
    omega

theorem OnCourse.follow {capacity : Nat} {tasks : List (Outcome α)} {moves : List Move} :
    ∀ {made : Nat} {progress last : Progress α}, progress.OnCourse capacity tasks made →
      progress.follow? capacity moves = some last →
        last.OnCourse capacity tasks (made + moves.length) := by
  induction moves with
  | nil =>
      intro made progress last course went
      cases went
      exact course
  | cons move moves ih =>
      intro made progress last course went
      rw [follow?, List.foldlM_cons] at went
      obtain ⟨next, moved, rest⟩ := Option.bind_eq_some_iff.mp went
      rw [List.length_cons, Nat.add_comm moves.length 1, ← Nat.add_assoc]
      exact ih (course.move moved) rest

theorem isFinished_iff_remaining_eq_zero {progress : Progress α} :
    progress.isFinished = true ↔ progress.remaining = 0 := by
  refine ⟨?_, isFinished_of_remaining_eq_zero⟩
  intro finished
  simp only [isFinished, Bool.and_eq_true, List.isEmpty_iff_length_eq_zero] at finished
  unfold remaining
  omega

/-- A run that is not over is not stuck: the eager move is possible. -/
theorem exists_step {capacity : Nat} (some_permit : 0 < capacity) {progress : Progress α}
    (going : progress.isFinished = false) : ∃ next, progress.Step capacity next := by
  cases eager : progress.eagerMove capacity with
  | some next => exact ⟨next, exists_move_of_eagerMove eager⟩
  | none =>
      have finished := isFinished_iff_remaining_eq_zero.mpr
        (remaining_eq_zero_of_eagerMove_eq_none some_permit eager)
      rw [finished] at going
      cases going

end Progress

theorem settle_eq_panicked_iff {outcome : Outcome α} {text : String} :
    outcome.settle = .error (.panicked text) ↔
      ∃ panic, outcome = .panicked panic ∧ panic.text = text := by
  cases outcome <;> simp [Outcome.settle]

theorem settle_eq_ok_iff {outcome : Outcome α} {value : α} :
    outcome.settle = .ok value ↔ outcome = .value value := by
  cases outcome <;> simp [Outcome.settle]

/-- A parallel run is safe in every order of its moves. The permits bound the live tasks,
and there is at least one permit. Until all tasks are collected some move is possible,
and they are collected after three moves a task. The results are then one for each task,
at its place: the value of a task that returned, the text of the panic where the task
panicked and nowhere else. They are what one task at a time comes to. -/
theorem parallel_safe (maxInFlight : Nat) (tasks : List (Outcome α)) (moves : List Move)
    {progress : Progress α}
    (went : (Progress.initial tasks).follow? (parallel maxInFlight).capacity moves =
      some progress) :
    progress.live.length ≤ max 1 maxInFlight ∧
      (progress.isFinished = false →
        ∃ next, progress.Step (parallel maxInFlight).capacity next) ∧
      (progress.isFinished = true ↔ moves.length = 3 * tasks.length) ∧
      (progress.isFinished = true →
        progress.results.length = tasks.length ∧
          (∀ (position : Nat) (value : α), progress.results[position]? = some (.ok value) ↔
            tasks[position]? = some (.value value)) ∧
          (∀ (position : Nat) (text : String),
            progress.results[position]? = some (.error (.panicked text)) ↔
              ∃ panic, tasks[position]? = some (.panicked panic) ∧ panic.text = text) ∧
          progress.results = sequential.run tasks ∧
          progress.results = (parallel maxInFlight).run tasks) := by
  have course := (Progress.onCourse_initial _ tasks).follow went
  refine ⟨?_, Progress.exists_step (parallel maxInFlight).capacity_pos, ?_, ?_⟩
  · rw [Nat.max_comm]
    exact course.permitted
  · have counted := course.counted
    rw [Progress.isFinished_iff_remaining_eq_zero]
    omega
  · intro finished
    have resultsAre := Progress.results_of_isFinished course.accounts finished
    refine ⟨?_, ?_, ?_, ?_, ?_⟩
    · rw [resultsAre, List.length_map]
    · intro position value
      simp [resultsAre, settle_eq_ok_iff]
    · intro position text
      simp [resultsAre, settle_eq_panicked_iff]
    · rw [resultsAre, run_eq_map_settle]
    · rw [resultsAre, run_eq_map_settle]

/-- Three tasks with two permits: the second ends first, the first panics, and the third
is collected before the others. -/
theorem sample_parallel_safe :
    ∃ progress : Progress Nat,
      (Progress.initial [.panicked (.message "no memory"), .value 5, .value 7]).follow?
          (parallel 2).capacity
          [.start, .start, .finish 1, .start, .finish 1, .finish 0, .collect 1, .collect 0,
            .collect 0] = some progress ∧
        progress.isFinished = true ∧ progress.results.length = 3 := by
  refine ⟨{ pending := [], live := [], ended := [],
            slots := [some (.error (.panicked "no memory")), some (.ok 5), some (.ok 7)] },
    rfl, rfl, ?_⟩
  exact ((parallel_safe 2 [.panicked (.message "no memory"), .value 5, .value 7]
    [.start, .start, .finish 1, .start, .finish 1, .finish 0, .collect 1, .collect 0,
      .collect 0] rfl).2.2.2 rfl).1

end TexAtlas.TaskPool
