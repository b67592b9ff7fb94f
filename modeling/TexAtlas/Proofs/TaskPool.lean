/-
Runs of a task pool. However a parallel run proceeds, every task is at one of four places,
and a place that a task has reached holds what the task came to. A run that is over
therefore has the results of the tasks in submission order, as a sequential run has.
-/

import TexAtlas.Proofs.Names
import TexAtlas.TaskPool

namespace TexAtlas.TaskPool

variable {α : Type}

namespace Progress

/-- Where the tasks of a run are. -/
structure Accounts (tasks : List (Outcome α)) (progress : Progress α) : Prop where
  slotCount : progress.slots.length = tasks.length
  pendingIs : ∀ entry ∈ progress.pending, tasks[entry.1]? = some entry.2
  liveIs : ∀ entry ∈ progress.live, tasks[entry.1]? = some entry.2
  endedIs : ∀ entry ∈ progress.ended, tasks[entry.1]?.map Outcome.settle = some entry.2
  filledIs : ∀ (position : Nat) (result : Except TaskError α),
    progress.slots[position]? = some (some result) →
      tasks[position]?.map Outcome.settle = some result
  covered : ∀ position : Nat, position < tasks.length →
    position ∈ progress.pending.map Prod.fst ∨ position ∈ progress.live.map Prod.fst ∨
      position ∈ progress.ended.map Prod.fst ∨
        ∃ result, progress.slots[position]? = some (some result)

theorem accounts_initial (tasks : List (Outcome α)) : (initial tasks).Accounts tasks := by
  have pendingFirst : (initial tasks).pending.map Prod.fst = List.range tasks.length := by
    simp only [initial, List.map_map, Function.comp_def]
    rw [List.zipIdx_map_snd, List.range_eq_range']
  refine ⟨by simp [initial], ?_, ?_, ?_, ?_, ?_⟩
  · intro entry member
    obtain ⟨⟨outcome, position⟩, present, rfl⟩ := List.mem_map.mp member
    exact List.mem_zipIdx_iff_getElem?.mp present
  · intro entry impossible
    cases impossible
  · intro entry impossible
    cases impossible
  · intro position result filled
    simp [initial, List.getElem?_replicate] at filled
  · intro position within
    left
    rw [pendingFirst]
    exact List.mem_range.mpr within

private theorem mem_map_eraseIdx {β : Type} {items : List (Nat × β)} {erased : Nat}
    {item : Nat × β} (held : items[erased]? = some item) {position : Nat}
    (member : position ∈ items.map Prod.fst) :
    position = item.1 ∨ position ∈ (items.eraseIdx erased).map Prod.fst := by
  obtain ⟨other, present, rfl⟩ := List.mem_map.mp member
  obtain ⟨place, found⟩ := List.mem_iff_getElem?.mp present
  by_cases same : place = erased
  · subst same
    rw [held] at found
    cases found
    exact Or.inl rfl
  · exact Or.inr (List.mem_map_of_mem (List.mem_eraseIdx_iff_getElem?.mpr ⟨place, same, found⟩))

section

variable {tasks : List (Outcome α)} {progress : Progress α}

theorem accounts_start (accounts : progress.Accounts tasks) {task : Nat × Outcome α}
    {rest : List (Nat × Outcome α)} (pendingEq : progress.pending = task :: rest) :
    Accounts tasks { progress with pending := rest, live := progress.live ++ [task] } := by
  have taskIs := accounts.pendingIs task (pendingEq ▸ List.mem_cons_self ..)
  refine ⟨accounts.slotCount, ?_, ?_, accounts.endedIs, accounts.filledIs, ?_⟩
  · intro entry member
    exact accounts.pendingIs entry (pendingEq ▸ List.mem_cons_of_mem task member)
  · intro entry member
    rcases List.mem_append.mp member with old | new
    · exact accounts.liveIs entry old
    · rw [List.mem_singleton.mp new]
      exact taskIs
  · intro position within
    have place := accounts.covered position within
    rw [pendingEq, List.map_cons, List.mem_cons] at place
    simp only [List.map_append, List.mem_append, List.map_cons, List.map_nil,
      List.mem_singleton]
    rcases place with (same | waiting) | live | others
    · exact Or.inr (Or.inl (Or.inr same))
    · exact Or.inl waiting
    · exact Or.inr (Or.inl (Or.inl live))
    · exact Or.inr (Or.inr others)

theorem accounts_finish (accounts : progress.Accounts tasks) {task : Nat × Outcome α}
    {erased : Nat} (held : progress.live[erased]? = some task) :
    Accounts tasks { progress with
      live := progress.live.eraseIdx erased
      ended := progress.ended ++ [(task.1, task.2.settle)] } := by
  have taskIs := accounts.liveIs task (List.mem_of_getElem? held)
  refine ⟨accounts.slotCount, accounts.pendingIs, ?_, ?_, accounts.filledIs, ?_⟩
  · intro entry member
    exact accounts.liveIs entry (List.mem_of_mem_eraseIdx member)
  · intro entry member
    rcases List.mem_append.mp member with old | new
    · exact accounts.endedIs entry old
    · rw [List.mem_singleton.mp new, taskIs]
      rfl
  · intro position within
    simp only [List.map_append, List.mem_append, List.map_cons, List.map_nil,
      List.mem_singleton]
    rcases accounts.covered position within with waiting | live | ended | filled
    · exact Or.inl waiting
    · rcases mem_map_eraseIdx held live with same | left
      · exact Or.inr (Or.inr (Or.inl (Or.inr same)))
      · exact Or.inr (Or.inl left)
    · exact Or.inr (Or.inr (Or.inl (Or.inl ended)))
    · exact Or.inr (Or.inr (Or.inr filled))

theorem accounts_collect (accounts : progress.Accounts tasks)
    {task : Nat × Except TaskError α} {erased : Nat}
    (held : progress.ended[erased]? = some task) :
    Accounts tasks { progress with
      ended := progress.ended.eraseIdx erased
      slots := progress.slots.set task.1 (some task.2) } := by
  have taskIs := accounts.endedIs task (List.mem_of_getElem? held)
  refine ⟨by simp [accounts.slotCount], accounts.pendingIs, accounts.liveIs, ?_, ?_, ?_⟩
  · intro entry member
    exact accounts.endedIs entry (List.mem_of_mem_eraseIdx member)
  · intro position result filled
    rw [List.getElem?_set] at filled
    split at filled
    · rename_i same
      split at filled
      · cases filled
        rw [← same]
        exact taskIs
      · cases filled
    · exact accounts.filledIs position result filled
  · intro position within
    rcases accounts.covered position within with waiting | live | ended | filled
    · exact Or.inl waiting
    · exact Or.inr (Or.inl live)
    · rcases mem_map_eraseIdx held ended with same | left
      · refine Or.inr (Or.inr (Or.inr ⟨task.2, ?_⟩))
        have inside : position < progress.slots.length := accounts.slotCount ▸ within
        rw [← same, List.getElem?_set_self inside]
      · exact Or.inr (Or.inr (Or.inl left))
    · obtain ⟨result, filled⟩ := filled
      refine Or.inr (Or.inr (Or.inr ?_))
      by_cases same : task.1 = position
      · have inside : position < progress.slots.length := accounts.slotCount ▸ within
        exact ⟨task.2, by rw [same, List.getElem?_set_self inside]⟩
      · exact ⟨result, by rw [List.getElem?_set_ne same]; exact filled⟩

end

/-- A move takes a task from one place to the next and touches no other. -/
theorem accounts_move {tasks : List (Outcome α)} {capacity : Nat} {progress next : Progress α}
    {move : Move} (accounts : progress.Accounts tasks)
    (moved : progress.move? capacity move = some next) : next.Accounts tasks := by
  cases move with
  | start =>
      simp only [move?] at moved
      split at moved
      · cases moved
      · rename_i task rest pendingEq
        split at moved
        · cases moved
          exact accounts_start accounts pendingEq
        · cases moved
  | finish erased =>
      simp only [move?] at moved
      split at moved
      · cases moved
      · rename_i task held
        cases moved
        exact accounts_finish accounts held
  | collect erased =>
      simp only [move?] at moved
      split at moved
      · rename_i task noPending held
        cases moved
        exact accounts_collect accounts held
      · cases moved

theorem results_of_isFinished {tasks : List (Outcome α)} {progress : Progress α}
    (accounts : progress.Accounts tasks) (finished : progress.isFinished = true) :
    progress.results = tasks.map Outcome.settle := by
  simp only [isFinished, Bool.and_eq_true, List.isEmpty_iff] at finished
  obtain ⟨⟨noPending, noLive⟩, noEnded⟩ := finished
  apply List.ext_getElem?
  intro position
  simp only [results, List.getElem?_map]
  by_cases within : position < tasks.length
  · have place := accounts.covered position within
    simp only [noPending, noLive, noEnded, List.map_nil, List.not_mem_nil, false_or] at place
    obtain ⟨result, filled⟩ := place
    rw [filled, accounts.filledIs position result filled]
    rfl
  · have outside : tasks.length ≤ position := Nat.le_of_not_lt within
    rw [List.getElem?_eq_none outside, List.getElem?_eq_none (accounts.slotCount ▸ outside)]
    rfl

/-- How many moves are left. -/
def remaining (progress : Progress α) : Nat :=
  3 * progress.pending.length + 2 * progress.live.length + progress.ended.length

theorem remaining_initial (tasks : List (Outcome α)) :
    (initial tasks).remaining = 3 * tasks.length := by
  simp [remaining, initial]

private theorem length_eraseIdx_of_held {β : Type} {items : List β} {erased : Nat} {item : β}
    (held : items[erased]? = some item) : (items.eraseIdx erased).length + 1 = items.length := by
  have within := (List.getElem?_eq_some_iff.mp held).1
  rw [List.length_eraseIdx_of_lt within]
  omega

theorem remaining_move {capacity : Nat} {progress next : Progress α} {move : Move}
    (moved : progress.move? capacity move = some next) :
    next.remaining + 1 = progress.remaining := by
  cases move with
  | start =>
      simp only [move?] at moved
      split at moved
      · cases moved
      · rename_i task rest pendingEq
        split at moved
        · cases moved
          simp only [remaining, pendingEq, List.length_append, List.length_cons, List.length_nil]
          omega
        · cases moved
  | finish erased =>
      simp only [move?] at moved
      split at moved
      · cases moved
      · rename_i task held
        cases moved
        have shorter := length_eraseIdx_of_held held
        simp only [remaining, List.length_append, List.length_cons, List.length_nil]
        omega
  | collect erased =>
      simp only [move?] at moved
      split at moved
      · rename_i task noPending held
        cases moved
        have shorter := length_eraseIdx_of_held held
        simp only [remaining, noPending, List.length_nil]
        omega
      · cases moved

theorem isFinished_of_remaining_eq_zero {progress : Progress α}
    (nothing : progress.remaining = 0) : progress.isFinished = true := by
  simp only [isFinished, Bool.and_eq_true, List.isEmpty_iff_length_eq_zero]
  unfold remaining at nothing
  omega

theorem exists_move_of_eagerMove {capacity : Nat} {progress next : Progress α}
    (eager : progress.eagerMove capacity = some next) :
    ∃ move, progress.move? capacity move = some next := by
  unfold eagerMove at eager
  split at eager
  · rename_i first moved
    cases eager
    exact ⟨.start, moved⟩
  · split at eager
    · rename_i second moved
      cases eager
      exact ⟨.finish 0, moved⟩
    · exact ⟨.collect 0, eager⟩

theorem remaining_eq_zero_of_eagerMove_eq_none {capacity : Nat} (some_permit : 0 < capacity)
    {progress : Progress α} (stuck : progress.eagerMove capacity = none) :
    progress.remaining = 0 := by
  unfold eagerMove at stuck
  split at stuck
  · cases stuck
  · rename_i noStart
    split at stuck
    · cases stuck
    · rename_i noFinish
      have noLive : progress.live = [] := by
        cases liveEq : progress.live with
        | nil => rfl
        | cons task rest => simp [move?, liveEq] at noFinish
      have noPending : progress.pending = [] := by
        cases pendingEq : progress.pending with
        | nil => rfl
        | cons task rest => simp [move?, pendingEq, noLive, some_permit] at noStart
      have noEnded : progress.ended = [] := by
        cases endedEq : progress.ended with
        | nil => rfl
        | cons task rest => simp [move?, noPending, endedEq] at stuck
      simp [remaining, noPending, noLive, noEnded]

/-- An eager run with enough moves comes to a state that is over. -/
theorem eagerStates_last {tasks : List (Outcome α)} {capacity : Nat} (some_permit : 0 < capacity)
    {moves : Nat} {progress : Progress α} (accounts : progress.Accounts tasks)
    (enough : progress.remaining ≤ moves) :
    ∃ last, (eagerStates capacity moves progress).getLast? = some last ∧
      last.Accounts tasks ∧ last.isFinished = true := by
  induction moves generalizing progress with
  | zero =>
      exact ⟨progress, rfl, accounts, isFinished_of_remaining_eq_zero (Nat.le_zero.mp enough)⟩
  | succ moves ih =>
      unfold eagerStates
      split
      · rename_i next eager
        obtain ⟨move, moved⟩ := exists_move_of_eagerMove eager
        have less := remaining_move moved
        obtain ⟨last, lastEq, lastAccounts, lastFinished⟩ :=
          ih (accounts_move accounts moved) (by omega)
        refine ⟨last, ?_, lastAccounts, lastFinished⟩
        rw [List.getLast?_cons, lastEq]
        rfl
      · rename_i stuck
        have nothing := remaining_eq_zero_of_eagerMove_eq_none some_permit stuck
        exact ⟨progress, rfl, accounts, isFinished_of_remaining_eq_zero nothing⟩

end Progress

/-- Whatever its mode, a pool answers with the results of the tasks in submission order. -/
theorem run_eq_map_settle (pool : TaskPool) (tasks : List (Outcome α)) :
    pool.run tasks = tasks.map Outcome.settle := by
  unfold run
  split
  · rfl
  · obtain ⟨last, lastEq, accounts, finished⟩ :=
      Progress.eagerStates_last pool.capacity_pos (Progress.accounts_initial tasks)
        (Nat.le_of_eq (Progress.remaining_initial tasks))
    rw [states, lastEq]
    exact Progress.results_of_isFinished accounts finished

end TexAtlas.TaskPool
