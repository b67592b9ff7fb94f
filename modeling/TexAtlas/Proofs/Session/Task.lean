/-
The task of one group. Each phase promises something about the files of the group and about
what was found out so far; a step keeps the promise, changes nothing but the files of its own
group, and brings the task one step nearer to its end.
-/

import TexAtlas.Proofs.Registry.Reachable
import TexAtlas.Proofs.Session.Coherent

namespace TexAtlas

namespace Registry

/-- Exactly the components to which references lead from the roots. -/
def Surveyed (registry : Registry) (roots : List String) (reached : List Component) : Prop :=
  ∀ component, component ∈ reached ↔
    ∃ bound, registry.Leads roots bound ∧ bound.component = component

/-- Nothing was done about the files of a group since they were clustered. -/
def Untouched (registry : Registry) (members : List Dependency) : Prop :=
  ∀ name ∈ members.map Dependency.name,
    registry.get? name = none ∧ registry.state name = .clustered

/-- What an answer of the classifier leaves behind for a group. -/
def Follows (registry : Registry) (members : List Dependency) :
    Outcome (Except Probe.ClassifyError Probe.Classification) → Prop
  | .value (.ok classification) =>
    ∃ bound : Instance, bound.component = GroupTask.componentOf members classification ∧
      ∀ name ∈ members.map Dependency.name,
        registry.get? name = some bound ∧ registry.state name = .registered
  | _ => registry.Drops members

end Registry

theorem Registry.Follows.settles {registry : Registry} {members : List Dependency}
    {answer : Outcome (Except Probe.ClassifyError Probe.Classification)}
    (ascending : (members.map Dependency.name).Pairwise (· < ·))
    (follows : registry.Follows members answer) : registry.Settles members := by
  unfold Registry.Follows at follows
  split at follows
  · obtain ⟨bound, component, held⟩ := follows
    refine Or.inl ⟨bound, ?_, ?_, held⟩
    · rw [component]
      exact SortedNames.ofList_toList_of_ascending ascending
    · rw [component]
      rfl
  · exact Or.inr follows

/-- A group is bound to a component only where its classification succeeded. -/
theorem Registry.Follows.classified_of_held {registry : Registry} {members : List Dependency}
    {answer : Outcome (Except Probe.ClassifyError Probe.Classification)}
    (follows : registry.Follows members answer) {name : String}
    (inside : name ∈ members.map Dependency.name) {bound : Instance}
    (held : registry.get? name = some bound) :
    ∃ classification, answer = .value (.ok classification) ∧
      bound.component = GroupTask.componentOf members classification := by
  unfold Registry.Follows at follows
  split at follows
  · rename_i classification
    obtain ⟨other, component, otherHeld⟩ := follows
    rw [(otherHeld name inside).1] at held
    cases held
    exact ⟨classification, rfl, component⟩
  · rw [(follows name inside).1] at held
    cases held

/-- The classifier was asked about the candidates of a group that are not taken by the
components that it reaches, and gave this answer. -/
def IsAnswer (settings : Settings) (members : List Dependency) (reached : List Component)
    (answer : Outcome (Except Probe.ClassifyError Probe.Classification)) : Prop :=
  ∃ lead rest scannedAt askedAt, members = lead :: rest ∧
    answer = (settings.classifier askedAt).classify lead.file
      ((settings.scanner scannedAt).candidates members settings.kernel reached)

/-- The answer about a group whose reached components are those of a registry. -/
def IsAnswerFor (settings : Settings) (registry : Registry) (members : List Dependency)
    (answer : Outcome (Except Probe.ClassifyError Probe.Classification)) : Prop :=
  ∃ reached, registry.Surveyed (GroupTask.roots settings members) reached ∧
    IsAnswer settings members reached answer

namespace Phase

/-- The instance that a task has made. -/
def instance? : Phase → Option Instance
  | .binding bound _ => some bound
  | .sealing bound _ => some bound
  | .finished (.value (.ok bound)) => some bound
  | _ => none

/-- The task has come to its end. -/
def IsFinished (phase : Phase) : Prop :=
  ∃ result, phase = .finished result

/-- How many steps a task of a group of a given size has left. -/
def left (size : Nat) : Phase → Nat
  | .waiting => 3 * size + 6
  | .surveyed _ => 3 * size + 5
  | .scanned _ => 3 * size + 4
  | .marking _ unmarked => unmarked.length + (2 * size + 3)
  | .binding _ unbound => unbound.length + (size + 2)
  | .sealing _ unsealed => unsealed.length + 1
  | .finished _ => 0

theorem isFinished_of_left_eq_zero {size : Nat} {phase : Phase} (nothing : phase.left size = 0) :
    phase.IsFinished := by
  cases phase with
  | finished result => exact ⟨result, rfl⟩
  | waiting => cases nothing
  | surveyed _ => cases nothing
  | scanned _ => cases nothing
  | marking _ _ => cases nothing
  | binding _ _ => cases nothing
  | sealing _ _ => cases nothing

end Phase

/-- What each phase of a task promises. The registry `base` is the one that the tasks of the
level began with. -/
inductive Stage (settings : Settings) (base registry : Registry) (members : List Dependency) :
    Phase → Prop where
  | waiting : registry.Untouched members → Stage settings base registry members .waiting
  | surveyed {reached : List Component} : registry.Untouched members →
      base.Surveyed (GroupTask.roots settings members) reached →
        Stage settings base registry members (.surveyed reached)
  | scanned {reached : List Component} {scannedAt : Nat} : registry.Untouched members →
      base.Surveyed (GroupTask.roots settings members) reached →
        Stage settings base registry members
          (.scanned ((settings.scanner scannedAt).candidates members settings.kernel reached))
  | marking {classification : Probe.Classification} {unmarked : List String} :
      (∀ name ∈ unmarked, name ∈ members.map Dependency.name) →
      IsAnswerFor settings base members (.value (.ok classification)) →
      (∀ name ∈ members.map Dependency.name,
        registry.get? name = none ∧ (registry.state name).isTerminal = false) →
        Stage settings base registry members (.marking classification unmarked)
  | binding {classification : Probe.Classification} {bound : Instance} {unbound : List String} :
      (∀ name ∈ unbound, name ∈ members.map Dependency.name) →
      IsAnswerFor settings base members (.value (.ok classification)) →
      bound.component = GroupTask.componentOf members classification →
      base.next ≤ bound.number → bound.number < registry.next →
      (∀ name ∈ members.map Dependency.name, (registry.state name).isTerminal = false ∧
        (registry.get? name = some bound ∨ name ∈ unbound ∧ registry.get? name = none)) →
        Stage settings base registry members (.binding bound unbound)
  | sealing {classification : Probe.Classification} {bound : Instance} {unsealed : List String} :
      (∀ name ∈ unsealed, name ∈ members.map Dependency.name) →
      IsAnswerFor settings base members (.value (.ok classification)) →
      bound.component = GroupTask.componentOf members classification →
      base.next ≤ bound.number → bound.number < registry.next →
      (∀ name ∈ members.map Dependency.name, registry.get? name = some bound ∧
        (registry.state name = .registered ∨
          name ∈ unsealed ∧ (registry.state name).isTerminal = false)) →
        Stage settings base registry members (.sealing bound unsealed)
  | succeeded {classification : Probe.Classification} {bound : Instance} :
      IsAnswerFor settings base members (.value (.ok classification)) →
      bound.component = GroupTask.componentOf members classification →
      base.next ≤ bound.number → bound.number < registry.next →
      (∀ name ∈ members.map Dependency.name,
        registry.get? name = some bound ∧ registry.state name = .registered) →
        Stage settings base registry members (.finished (.value (.ok bound)))
  | failed {error : Probe.ClassifyError} : registry.Untouched members →
      IsAnswerFor settings base members (.value (.error error)) →
        Stage settings base registry members (.finished (.value (.error error)))
  | panicked {panic : Panic} : registry.Untouched members →
      IsAnswerFor settings base members (.panicked panic) →
        Stage settings base registry members (.finished (.panicked panic))

namespace Stage

variable {settings : Settings} {base registry other : Registry} {members : List Dependency}
  {phase : Phase}

theorem congr (stage : Stage settings base registry members phase)
    (agree : ∀ name ∈ members.map Dependency.name, registry.AgreesOn other name)
    (next_le : registry.next ≤ other.next) : Stage settings base other members phase := by
  have untouched : registry.Untouched members → other.Untouched members := by
    intro before name inside
    rw [(agree name inside).1, (agree name inside).2]
    exact before name inside
  cases stage with
  | waiting before => exact .waiting (untouched before)
  | surveyed before surveyed => exact .surveyed (untouched before) surveyed
  | scanned before surveyed => exact .scanned (untouched before) surveyed
  | marking names answer files =>
      refine .marking names answer ?_
      intro name inside
      rw [(agree name inside).1, (agree name inside).2]
      exact files name inside
  | binding names answer component from_base below files =>
      refine .binding names answer component from_base (Nat.lt_of_lt_of_le below next_le) ?_
      intro name inside
      rw [(agree name inside).1, (agree name inside).2]
      exact files name inside
  | sealing names answer component from_base below files =>
      refine .sealing names answer component from_base (Nat.lt_of_lt_of_le below next_le) ?_
      intro name inside
      rw [(agree name inside).1, (agree name inside).2]
      exact files name inside
  | succeeded answer component from_base below files =>
      refine .succeeded answer component from_base (Nat.lt_of_lt_of_le below next_le) ?_
      intro name inside
      rw [(agree name inside).1, (agree name inside).2]
      exact files name inside
  | failed before answer => exact .failed (untouched before) answer
  | panicked before answer => exact .panicked (untouched before) answer

theorem instance_of_held (stage : Stage settings base registry members phase) {name : String}
    (inside : name ∈ members.map Dependency.name) {bound : Instance}
    (held : registry.get? name = some bound) : phase.instance? = some bound := by
  have notUntouched : ¬registry.Untouched members := by
    intro untouched
    rw [(untouched name inside).1] at held
    cases held
  cases stage with
  | waiting before => exact absurd before notUntouched
  | surveyed before _ => exact absurd before notUntouched
  | scanned before _ => exact absurd before notUntouched
  | marking _ _ files =>
      rw [(files name inside).1] at held
      cases held
  | binding _ _ _ _ _ files =>
      rcases (files name inside).2 with bound_is | ⟨_, unbound⟩
      · rw [← held]
        exact bound_is.symm
      · rw [unbound] at held
        cases held
  | sealing _ _ _ _ _ files => exact (files name inside).1.symm.trans held
  | succeeded _ _ _ _ files => exact (files name inside).1.symm.trans held
  | failed before _ => exact absurd before notUntouched
  | panicked before _ => exact absurd before notUntouched

theorem number_of_instance (stage : Stage settings base registry members phase)
    {bound : Instance} (made : phase.instance? = some bound) :
    base.next ≤ bound.number ∧ bound.number < registry.next := by
  cases stage with
  | binding _ _ _ from_base below _ =>
      cases made
      exact ⟨from_base, below⟩
  | sealing _ _ _ from_base below _ =>
      cases made
      exact ⟨from_base, below⟩
  | succeeded _ _ from_base below _ =>
      cases made
      exact ⟨from_base, below⟩
  | waiting _ => cases made
  | surveyed _ _ => cases made
  | scanned _ _ => cases made
  | marking _ _ _ => cases made
  | failed _ _ => cases made
  | panicked _ _ => cases made

end Stage

namespace GroupTask

theorem fileNames_componentOf {members : List Dependency}
    (ascending : (members.map Dependency.name).Pairwise (· < ·))
    (classification : Probe.Classification) :
    (componentOf members classification).fileNames = members.map Dependency.name :=
  SortedNames.ofList_toList_of_ascending ascending

/-- What one step of a task leaves as it was, and what it brings about. -/
structure StepSound (settings : Settings) (base : Registry) (task : GroupTask)
    (session : Session) (after : GroupTask × Session) : Prop where
  members : after.1.members = task.members
  stage : Stage settings base after.2.registry task.members after.1.phase
  memo : after.2.memo = session.memo
  agree : ∀ name, name ∉ task.names → session.registry.AgreesOn after.2.registry name
  next_le : session.registry.next ≤ after.2.registry.next
  made : ∀ bound, after.1.phase.instance? = some bound →
    task.phase.instance? = some bound ∨ session.registry.next ≤ bound.number
  left : after.1.phase.left task.members.length ≤ task.phase.left task.members.length - 1

variable {settings : Settings} {base : Registry}

theorem StepSound.of_phase {task : GroupTask} {session changed : Session} {phase : Phase}
    (registry_is : changed.registry = session.registry) (memo_is : changed.memo = session.memo)
    (stage : Stage settings base session.registry task.members phase)
    (made : ∀ bound, phase.instance? = some bound → task.phase.instance? = some bound)
    (left : phase.left task.members.length ≤ task.phase.left task.members.length - 1) :
    StepSound settings base task session ({ task with phase := phase }, changed) := by
  refine ⟨rfl, ?_, memo_is, ?_, ?_, fun bound is => Or.inl (made bound is), left⟩
  · change Stage settings base changed.registry task.members phase
    rw [registry_is]
    exact stage
  · intro name _
    change session.registry.AgreesOn changed.registry name
    rw [registry_is]
    exact ⟨rfl, rfl⟩
  · exact Nat.le_of_eq (congrArg Registry.next registry_is.symm)

/-! ### The steps, phase by phase -/

section Steps

variable (settings) (lead : Dependency) (rest members : List Dependency) (session : Session)

theorem step_waiting_eq :
    GroupTask.step settings ⟨lead :: rest, .waiting⟩ session =
      (⟨lead :: rest, .surveyed ((session.registry.reachable (roots settings (lead :: rest))).map
          Instance.component)⟩,
        session.note [.surveyed ((lead :: rest).map Dependency.name) session.registry]) := rfl

theorem step_surveyed_eq (reached : List Component) :
    GroupTask.step settings ⟨members, .surveyed reached⟩ session =
      (⟨members, .scanned ((settings.scanner session.asked).candidates members settings.kernel
        reached)⟩, session) := by
  cases members <;> rfl

theorem step_scanned_eq (candidates : SortedNames) :
    GroupTask.step settings ⟨lead :: rest, .scanned candidates⟩ session =
      (⟨lead :: rest, afterClassification (lead :: rest)
          ((settings.classifier session.asked).classify lead.file candidates)⟩,
        session.note [.classified lead.file candidates]) := rfl

theorem step_marking_cons_eq (classification : Probe.Classification) (name : String)
    (unmarked : List String) :
    GroupTask.step settings ⟨members, .marking classification (name :: unmarked)⟩ session =
      (⟨members, .marking classification unmarked⟩,
        withRegistry session (session.registry.advance name .classified)) := by
  cases members <;> rfl

theorem step_marking_nil_eq (classification : Probe.Classification) :
    GroupTask.step settings ⟨members, .marking classification []⟩ session =
      (⟨members, .binding ⟨session.registry.next, componentOf members classification⟩
          (componentOf members classification).fileNames⟩,
        withRegistry session
          (session.registry.allocate (componentOf members classification)).2) := by
  cases members <;> rfl

theorem step_binding_cons_eq (bound : Instance) (name : String) (unbound : List String) :
    GroupTask.step settings ⟨members, .binding bound (name :: unbound)⟩ session =
      (⟨members, .binding bound unbound⟩,
        withRegistry session (session.registry.bind name bound)) := by
  cases members <;> rfl

theorem step_binding_nil_eq (bound : Instance) :
    GroupTask.step settings ⟨members, .binding bound []⟩ session =
      (⟨members, .sealing bound bound.component.fileNames⟩, session) := by
  cases members <;> rfl

theorem step_sealing_cons_eq (bound : Instance) (name : String) (unsealed : List String) :
    GroupTask.step settings ⟨members, .sealing bound (name :: unsealed)⟩ session =
      (⟨members, .sealing bound unsealed⟩,
        withRegistry session (session.registry.advance name .registered)) := by
  cases members <;> rfl

theorem step_sealing_nil_eq (bound : Instance) :
    GroupTask.step settings ⟨members, .sealing bound []⟩ session =
      (⟨members, .finished (.value (.ok bound))⟩, session) := by
  cases members <;> rfl

theorem step_finished_eq (result : TaskResult) :
    GroupTask.step settings ⟨members, .finished result⟩ session =
      (⟨members, .finished result⟩, session) := by
  cases members <;> rfl

@[simp] theorem members_step (task : GroupTask) :
    (task.step settings session).1.members = task.members := by
  unfold step
  split <;> rfl

end Steps

/-! ### Every step keeps the promise -/

theorem agree_advance (registry : Registry) {name other : String} (next : FileState)
    (different : name ≠ other) : registry.AgreesOn (registry.advance name next) other :=
  ⟨rfl, by rw [Registry.state_advance, if_neg different]⟩

theorem agree_bind (registry : Registry) {name other : String} (bound : Instance)
    (different : name ≠ other) : registry.AgreesOn (registry.bind name bound) other :=
  ⟨by rw [Registry.get?_bind, if_neg different], rfl⟩

theorem isTerminal_move_classified {state : FileState} (running : state.isTerminal = false) :
    (state.move .classified).isTerminal = false := by
  cases state <;> first | rfl | cases running

theorem move_registered {state : FileState} (running : state.isTerminal = false) :
    state.move .registered = .registered := by
  cases state <;> first | rfl | cases running

theorem step_marking {members : List Dependency} {session : Session}
    {classification : Probe.Classification} {unmarked : List String}
    (ascending : (members.map Dependency.name).Pairwise (· < ·))
    (base_le : base.next ≤ session.registry.next)
    (inside : ∀ name ∈ unmarked, name ∈ members.map Dependency.name)
    (answer : IsAnswerFor settings base members (.value (.ok classification)))
    (files : ∀ name ∈ members.map Dependency.name, session.registry.get? name = none ∧
      (session.registry.state name).isTerminal = false) :
    StepSound settings base ⟨members, .marking classification unmarked⟩ session
      (GroupTask.step settings ⟨members, .marking classification unmarked⟩ session) := by
  cases unmarked with
  | nil =>
      have names := fileNames_componentOf ascending classification
      rw [step_marking_nil_eq]
      refine ⟨rfl, ?_, rfl, fun name _ => ⟨rfl, rfl⟩, Nat.le_succ _, ?_, ?_⟩
      · refine .binding (fun name member => names ▸ member) answer rfl base_le
          (Nat.lt_succ_self _) ?_
        intro name member
        refine ⟨(files name member).2, Or.inr ⟨?_, (files name member).1⟩⟩
        exact names ▸ member
      · intro bound made
        cases made
        exact Or.inr (Nat.le_refl _)
      · simp only [Phase.left, names, List.length_map, List.length_nil]
        omega
  | cons name unmarked =>
      have isMember := inside name (List.mem_cons_self ..)
      rw [step_marking_cons_eq]
      refine ⟨rfl, ?_, rfl, ?_, Nat.le_refl _, fun bound made => Or.inl made, ?_⟩
      · refine .marking (fun other later => inside other (List.mem_cons_of_mem name later))
          answer ?_
        intro other member
        refine ⟨(files other member).1, ?_⟩
        change ((session.registry.advance name .classified).state other).isTerminal = false
        rw [Registry.state_advance]
        split
        · rename_i same
          rw [same]
          exact isTerminal_move_classified (files other member).2
        · exact (files other member).2
      · intro other absent
        exact agree_advance session.registry .classified
          (fun same => absent (by rw [← same]; exact isMember))
      · simp only [Phase.left, List.length_cons]
        omega

theorem step_binding {members : List Dependency} {session : Session}
    {classification : Probe.Classification} {bound : Instance} {unbound : List String}
    (ascending : (members.map Dependency.name).Pairwise (· < ·))
    (inside : ∀ name ∈ unbound, name ∈ members.map Dependency.name)
    (answer : IsAnswerFor settings base members (.value (.ok classification)))
    (component : bound.component = componentOf members classification)
    (from_base : base.next ≤ bound.number) (below : bound.number < session.registry.next)
    (files : ∀ name ∈ members.map Dependency.name,
      (session.registry.state name).isTerminal = false ∧
        (session.registry.get? name = some bound ∨
          name ∈ unbound ∧ session.registry.get? name = none)) :
    StepSound settings base ⟨members, .binding bound unbound⟩ session
      (GroupTask.step settings ⟨members, .binding bound unbound⟩ session) := by
  cases unbound with
  | nil =>
      have names : bound.component.fileNames = members.map Dependency.name := by
        rw [component]
        exact fileNames_componentOf ascending classification
      rw [step_binding_nil_eq]
      refine StepSound.of_phase rfl rfl ?_ (fun _ made => made) ?_
      · refine .sealing (fun name member => names ▸ member) answer component from_base below ?_
        intro name member
        obtain ⟨running, held | ⟨impossible, _⟩⟩ := files name member
        · exact ⟨held, Or.inr ⟨names ▸ member, running⟩⟩
        · cases impossible
      · simp only [Phase.left, names, List.length_map, List.length_nil]
        omega
  | cons name unbound =>
      have isMember := inside name (List.mem_cons_self ..)
      rw [step_binding_cons_eq]
      refine ⟨rfl, ?_, rfl, ?_, Nat.le_refl _, fun _ made => Or.inl made, ?_⟩
      · refine .binding (fun other later => inside other (List.mem_cons_of_mem name later))
          answer component from_base below ?_
        intro other member
        change ((session.registry.bind name bound).state other).isTerminal = false ∧
          ((session.registry.bind name bound).get? other = some bound ∨
            other ∈ unbound ∧ (session.registry.bind name bound).get? other = none)
        rw [Registry.get?_bind, Registry.state_bind]
        obtain ⟨running, place⟩ := files other member
        refine ⟨running, ?_⟩
        by_cases same : name = other
        · exact Or.inl (if_pos same)
        · rw [if_neg same]
          rcases place with held | ⟨waiting, none_held⟩
          · exact Or.inl held
          · exact Or.inr ⟨(List.mem_cons.mp waiting).resolve_left (fun equal => same equal.symm),
              none_held⟩
      · intro other absent
        exact agree_bind session.registry bound
          (fun same => absent (by rw [← same]; exact isMember))
      · simp only [Phase.left, List.length_cons]
        omega

theorem step_sealing {members : List Dependency} {session : Session}
    {classification : Probe.Classification} {bound : Instance} {unsealed : List String}
    (inside : ∀ name ∈ unsealed, name ∈ members.map Dependency.name)
    (answer : IsAnswerFor settings base members (.value (.ok classification)))
    (component : bound.component = componentOf members classification)
    (from_base : base.next ≤ bound.number) (below : bound.number < session.registry.next)
    (files : ∀ name ∈ members.map Dependency.name, session.registry.get? name = some bound ∧
      (session.registry.state name = .registered ∨
        name ∈ unsealed ∧ (session.registry.state name).isTerminal = false)) :
    StepSound settings base ⟨members, .sealing bound unsealed⟩ session
      (GroupTask.step settings ⟨members, .sealing bound unsealed⟩ session) := by
  cases unsealed with
  | nil =>
      rw [step_sealing_nil_eq]
      refine StepSound.of_phase rfl rfl ?_ (fun _ made => made) (Nat.zero_le _)
      refine .succeeded answer component from_base below ?_
      intro name member
      obtain ⟨held, sealed | ⟨impossible, _⟩⟩ := files name member
      · exact ⟨held, sealed⟩
      · cases impossible
  | cons name unsealed =>
      have isMember := inside name (List.mem_cons_self ..)
      rw [step_sealing_cons_eq]
      refine ⟨rfl, ?_, rfl, ?_, Nat.le_refl _, fun _ made => Or.inl made, ?_⟩
      · refine .sealing (fun other later => inside other (List.mem_cons_of_mem name later))
          answer component from_base below ?_
        intro other member
        obtain ⟨held, place⟩ := files other member
        refine ⟨held, ?_⟩
        change (session.registry.advance name .registered).state other = .registered ∨
          other ∈ unsealed ∧
            ((session.registry.advance name .registered).state other).isTerminal = false
        rw [Registry.state_advance]
        by_cases same : name = other
        · subst same
          rw [if_pos rfl]
          rcases place with sealed | ⟨_, running⟩
          · rw [sealed]
            exact Or.inl rfl
          · exact Or.inl (move_registered running)
        · rw [if_neg same]
          rcases place with sealed | ⟨waiting, running⟩
          · exact Or.inl sealed
          · exact Or.inr ⟨(List.mem_cons.mp waiting).resolve_left (fun equal => same equal.symm),
              running⟩
      · intro other absent
        exact agree_advance session.registry .registered
          (fun same => absent (by rw [← same]; exact isMember))
      · simp only [Phase.left, List.length_cons]
        omega

/-- Every step keeps the promise of its phase, if references lead from the roots of the group
to what they led to when the level began. -/
theorem step_sound {task : GroupTask} {session : Session} (nonempty : task.members ≠ [])
    (ascending : task.names.Pairwise (· < ·)) (numbered : session.registry.Numbered)
    (leads : ∀ bound, session.registry.Leads (roots settings task.members) bound ↔
      base.Leads (roots settings task.members) bound)
    (base_le : base.next ≤ session.registry.next)
    (stage : Stage settings base session.registry task.members task.phase) :
    StepSound settings base task session (task.step settings session) := by
  obtain ⟨members, phase⟩ := task
  obtain ⟨lead, rest, rfl⟩ := List.exists_cons_of_ne_nil nonempty
  change Stage settings base session.registry (lead :: rest) phase at stage
  cases stage with
  | waiting untouched =>
      rw [step_waiting_eq]
      refine StepSound.of_phase rfl rfl (.surveyed untouched ?_) (fun _ made => by cases made)
        (Nat.le_refl _)
      intro component
      rw [List.mem_map]
      constructor
      · rintro ⟨bound, found, rfl⟩
        have led := (Registry.mem_reachable_iff numbered _ bound).mp found
        exact ⟨bound, (leads bound).mp led, rfl⟩
      · rintro ⟨bound, led, rfl⟩
        have ledNow := (leads bound).mpr led
        exact ⟨bound, (Registry.mem_reachable_iff numbered _ bound).mpr ledNow, rfl⟩
  | surveyed untouched surveyed =>
      rw [step_surveyed_eq]
      exact StepSound.of_phase rfl rfl (.scanned untouched surveyed) (fun _ made => by cases made)
        (Nat.le_refl _)
  | @scanned reached scannedAt untouched surveyed =>
      rw [step_scanned_eq]
      have answered : IsAnswerFor settings base (lead :: rest)
          ((settings.classifier session.asked).classify lead.file
            ((settings.scanner scannedAt).candidates (lead :: rest) settings.kernel reached)) :=
        ⟨reached, surveyed, lead, rest, scannedAt, session.asked, rfl, rfl⟩
      cases answer : (settings.classifier session.asked).classify lead.file
          ((settings.scanner scannedAt).candidates (lead :: rest) settings.kernel reached) with
      | panicked panic =>
          rw [answer] at answered
          exact StepSound.of_phase rfl rfl (.panicked untouched answered)
            (fun _ made => by cases made)
            (Nat.zero_le _)
      | value result =>
          rw [answer] at answered
          cases result with
          | error error =>
              exact StepSound.of_phase rfl rfl (.failed untouched answered)
                (fun _ made => by cases made) (Nat.zero_le _)
          | ok classification =>
              refine StepSound.of_phase rfl rfl (.marking (fun _ member => member) answered ?_)
                (fun _ made => by cases made) ?_
              · intro name member
                exact ⟨(untouched name member).1, by rw [(untouched name member).2]; rfl⟩
              · simp only [afterClassification, Phase.left, List.length_map]
                omega
  | marking inside answer files => exact step_marking ascending base_le inside answer files
  | binding inside answer component from_base below files =>
      exact step_binding ascending inside answer component from_base below files
  | sealing inside answer component from_base below files =>
      exact step_sealing inside answer component from_base below files
  | succeeded answer component from_base below files =>
      rw [step_finished_eq]
      exact StepSound.of_phase rfl rfl (.succeeded answer component from_base below files)
        (fun _ made => made) (Nat.le_refl _)
  | failed untouched answer =>
      rw [step_finished_eq]
      exact StepSound.of_phase rfl rfl (.failed untouched answer) (fun _ made => made)
        (Nat.le_refl _)
  | panicked untouched answer =>
      rw [step_finished_eq]
      exact StepSound.of_phase rfl rfl (.panicked untouched answer) (fun _ made => made)
        (Nat.le_refl _)

end GroupTask

end TexAtlas
