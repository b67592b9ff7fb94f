/-
No file is lost or left half-way. Whatever files a run is called on and however the engine
fails, after every operation each file is untouched, registered or skipped, and it is bound
just if it is registered. Files that reach each other fare alike, so a component is settled as
a whole or not at all.
-/

import TexAtlas.Proofs.Session.Components

namespace TexAtlas

variable {settings : Settings} {before after session : Session} {file : File}
  {found : Option Instance}

/-- What is found between any two operations of a session. -/
structure Session.AtRest (session : Session) : Prop where
  /-- No file is in an intermediate state. -/
  states : ∀ name, session.registry.state name = .unresolved ∨
    session.registry.state name = .registered ∨ session.registry.state name = .skipped
  /-- The bound names are the registered ones. -/
  bound_iff : ∀ name, (∃ bound, session.registry.get? name = some bound) ↔
    session.registry.state name = .registered
  /-- The files of one group share their state and their component. -/
  whole : ∀ left right, Memo.Together session.memo left right →
    session.registry.state left = session.registry.state right ∧
      session.registry.get? left = session.registry.get? right

theorem Coherent.settled_of_together {memo : Memo} {registry : Registry} {pending : List String}
    (coherent : Coherent memo registry pending) {left right : String}
    (both : memo.Together left right) :
    registry.isSettled left = registry.isSettled right := by
  have half : ∀ {source target}, memo.Together source target →
      registry.isSettled source = true → registry.isSettled target = true :=
    fun together settled => together.1.stays coherent.closed settled
  rw [Bool.eq_iff_iff]
  exact ⟨half both, half both.symm⟩

theorem Orderly.atRest {admitted : File → Prop} (orderly : Orderly settings admitted session) :
    session.AtRest := by
  have coherent := orderly.coherent
  refine ⟨?_, coherent.bound_iff_registered, ?_⟩
  · intro name
    rcases coherent.rests name List.not_mem_nil with ⟨_, unresolved⟩ | settled
    · exact Or.inl unresolved
    · exact Or.inr ((session.registry.isSettled_iff name).mp settled)
  · intro left right both
    have alike := coherent.settled_of_together both
    cases settled : session.registry.isSettled left with
    | true =>
        obtain ⟨sameState, bound⟩ := coherent.settles_together settled both
        refine ⟨sameState, ?_⟩
        rcases (session.registry.isSettled_iff left).mp settled with registered | skipped
        · obtain ⟨bound, leftHeld, rightHeld⟩ := bound registered
          exact leftHeld.trans rightHeld.symm
        · have rightUnbound := (coherent.unbound_iff_skipped (alike ▸ settled)).mpr
            (sameState ▸ skipped)
          exact ((coherent.unbound_iff_skipped settled).mpr skipped).trans rightUnbound.symm
    | false =>
        obtain ⟨leftUnbound, leftState⟩ := coherent.untouched_of_not_settled List.not_mem_nil settled
        obtain ⟨rightUnbound, rightState⟩ :=
          coherent.untouched_of_not_settled List.not_mem_nil (alike.symm.trans settled)
        exact ⟨leftState.trans rightState.symm, leftUnbound.trans rightUnbound.symm⟩

/-! ### Operations settle their files -/

/-- The files that an operation has to settle: the one to be resolved, or the classes and styles
among those to be indexed. -/
def Operation.targets (settings : Settings) : Operation → List File
  | .resolve file => [file]
  | .index files => Session.targetsAmong files
  | .indexAll => Session.targetsAmong (Session.targets settings)
  | .dependency _ | .applyOverrides _ => []

section

variable (orderly : Orderly settings anyFile before)

include orderly

theorem Orderly.resolve (ran : before.resolve settings file = some (found, after)) :
    Orderly settings anyFile after ∧ Onward before after ∧
      after.registry.isSettled file.name = true ∧ found = after.registry.get? file.name := by
  unfold Session.resolve at ran
  rw [Option.bind_eq_some_iff] at ran
  obtain ⟨ready, based, resolves⟩ := ran
  have parts : before.Parts settings anyFile False ready :=
    Session.Parts.resolveBaseline (fun _ _ => trivial) based
  obtain ⟨readyOrderly, first⟩ := orderly.parts (fun _ _ => trivial) parts
  obtain ⟨done, later, settled, answer⟩ :=
    readyOrderly.resolveClosure (fun _ _ => trivial) trivial resolves
  exact ⟨done, first.trans later.onward, settled, answer⟩

theorem Orderly.indexFile (ran : before.indexFile settings file = some after) :
    Orderly settings anyFile after ∧ Onward before after ∧
      after.registry.isSettled file.name = true := by
  unfold Session.indexFile at ran
  split at ran
  · rename_i known
    cases ran
    refine ⟨orderly, Onward.refl _, ?_⟩
    rcases Bool.or_eq_true_iff.mp known with isBound | settled
    · obtain ⟨bound, held⟩ := (Registry.contains_iff _ _).mp isBound
      exact (orderly.coherent.holds_of_bound held).1
    · exact settled
  · obtain ⟨⟨found, _⟩, resolves, same⟩ := Option.map_eq_some_iff.mp ran
    cases same
    obtain ⟨done, onward, settled, _⟩ := orderly.resolve resolves
    exact ⟨done, onward, settled⟩

theorem Orderly.indexFiles {files : List File}
    (ran : files.foldlM (Session.indexFile settings) before = some after) :
    Orderly settings anyFile after ∧ Onward before after ∧
      ∀ file ∈ files, after.registry.isSettled file.name = true := by
  induction files generalizing before with
  | nil =>
      cases ran
      exact ⟨orderly, Onward.refl _, fun _ impossible => absurd impossible List.not_mem_nil⟩
  | cons file files ih =>
      rw [List.foldlM_cons, Option.bind_eq_bind, Option.bind_eq_some_iff] at ran
      obtain ⟨next, stepped, rest⟩ := ran
      obtain ⟨nextOrderly, first, settled⟩ := orderly.indexFile stepped
      obtain ⟨done, onward, others⟩ := ih nextOrderly rest
      refine ⟨done, first.trans onward, ?_⟩
      intro other member
      rcases List.mem_cons.mp member with rfl | later
      · exact onward.isSettled settled
      · exact others other later

theorem Orderly.index {files : List File}
    (ran : (before.index settings files).map Prod.snd = some after) :
    Orderly settings anyFile after ∧ Onward before after ∧
      ∀ file ∈ Session.targetsAmong files, after.registry.isSettled file.name = true := by
  unfold Session.index at ran
  rw [Option.map_map, Option.map_eq_some_iff] at ran
  obtain ⟨done, folded, same⟩ := ran
  cases same
  exact orderly.indexFiles folded

/-- Every operation settles what it has to settle. -/
theorem Orderly.perform {operation : Operation}
    (performed : operation.perform settings before = some after) :
    Orderly settings anyFile after ∧ Onward before after ∧
      ∀ file ∈ operation.targets settings, after.registry.isSettled file.name = true := by
  cases operation with
  | resolve file =>
      obtain ⟨⟨found, _⟩, resolves, same⟩ := Option.map_eq_some_iff.mp performed
      cases same
      obtain ⟨done, onward, settled, _⟩ := orderly.resolve resolves
      exact ⟨done, onward, fun target member => List.mem_singleton.mp member ▸ settled⟩
  | index files => exact orderly.index performed
  | indexAll => exact orderly.index performed
  | dependency file =>
      cases performed
      have part : Session.Part settings anyFile False before (before.dependency settings file).2 :=
        .dependency trivial
      obtain ⟨done, onward⟩ := orderly.part (fun _ _ => trivial) part
      exact ⟨done, onward, fun _ impossible => absurd impossible List.not_mem_nil⟩
  | applyOverrides entries =>
      cases performed
      have part : Session.Part settings anyFile True before (before.applyOverrides entries).2 :=
        .applyOverrides entries trivial
      obtain ⟨done, onward⟩ := orderly.part (fun _ _ => trivial) part
      exact ⟨done, onward, fun _ impossible => absurd impossible List.not_mem_nil⟩

/-- A run settles what its operations have to settle, and nothing is undone. -/
theorem Orderly.run {operations : List Operation}
    (ran : before.run settings operations = some after) :
    Orderly settings anyFile after ∧ Onward before after ∧
      ∀ operation ∈ operations, ∀ file ∈ operation.targets settings,
        after.registry.isSettled file.name = true := by
  induction operations generalizing before with
  | nil =>
      cases ran
      exact ⟨orderly, Onward.refl _, fun _ impossible => absurd impossible List.not_mem_nil⟩
  | cons operation operations ih =>
      obtain ⟨next, performed, rest⟩ := Option.bind_eq_some_iff.mp ran
      obtain ⟨nextOrderly, first, settled⟩ := orderly.perform performed
      obtain ⟨done, onward, others⟩ := ih nextOrderly rest
      refine ⟨done, first.trans onward, ?_⟩
      intro other member file isTarget
      rcases List.mem_cons.mp member with rfl | later
      · exact onward.isSettled (settled file isTarget)
      · exact others other later file isTarget

end

/-- After every completed operation, whatever it was called on and however the engine failed,
no file is half-way: what was to be settled is registered or skipped, and a file that is
resolved next is answered with its component just if it is registered. -/
theorem nothing_left_halfway {operations : List Operation}
    (ran : Session.initial.run settings operations = some session) :
    session.AtRest ∧
    (∀ operation ∈ operations, ∀ file ∈ operation.targets settings,
      session.registry.state file.name = .registered ∨
        session.registry.state file.name = .skipped) ∧
    ∀ file found after, session.resolve settings file = some (found, after) →
      after.AtRest ∧
      ((∃ bound, found = some bound) ↔ after.registry.state file.name = .registered) ∧
      (∀ bound, found = some bound → after.registry.get? file.name = some bound ∧
        file.name ∈ bound.component.fileNames) ∧
      (found = none ↔ after.registry.state file.name = .skipped) := by
  obtain ⟨orderly, _, settled⟩ := (Orderly.initial settings anyFile).run ran
  refine ⟨orderly.atRest, ?_, ?_⟩
  · intro operation member file isTarget
    exact (session.registry.isSettled_iff file.name).mp (settled operation member file isTarget)
  · intro file found after resolves
    obtain ⟨done, _, fileSettled, rfl⟩ := orderly.resolve resolves
    have coherent := done.coherent
    refine ⟨done.atRest, coherent.bound_iff_registered file.name, ?_,
      coherent.unbound_iff_skipped fileSettled⟩
    intro bound held
    exact ⟨held, (coherent.registered_of_bound held).2⟩

/-- An engine with all kinds of failures. It lists nothing for `a.sty` and `c.sty`, because it runs
out of time about the one and panics about the other, and when it classifies them it is the other
way round. It knows the symbols of the host class and of `b.sty`. -/
def Engine.faulty : Engine := .ofReplies
  [(Probe.listingDocument (.sample "b.sty"), .transcript "*File List*\na.sty\nc.sty\n"),
    (Probe.listingDocument (.sample "a.sty"), .fault (.timedOut ⟨1000⟩)),
    (Probe.listingDocument (.sample "c.sty"), .panicked (.message "no answer")),
    (Probe.classificationDocument (.sample "article.cls") (.ofList ["art"]),
      .transcript "cmd:art\n"),
    (Probe.classificationDocument (.sample "a.sty") (.ofList ["low", "ring"]),
      .panicked (.message "no answer")),
    (Probe.classificationDocument (.sample "c.sty") (.ofList ["low"]), .fault (.timedOut ⟨1000⟩)),
    (Probe.classificationDocument (.sample "b.sty") (.ofList ["knot", "low", "ring"]),
      .transcript "env:knot\ncmd:ring\n")]

def Settings.faulty : Settings :=
  { Settings.sample with engine := fun _ => Engine.faulty }

/-- A probe that panics, a closure of which two files can neither be listed nor classified, an
override, and then everything. -/
def Operation.faulty : List Operation :=
  [.dependency (.sample "c.sty"), .resolve (.sample "b.sty"),
    .applyOverrides [⟨"b", ["extra"], []⟩], .indexAll]

/-- Of the three packages one is registered, with its symbols and the curated one, and two are
skipped. Each is answered accordingly after the run, and so is a fourth package that the index does
not know. -/
theorem run_faulty :
    ∃ session ∈ Session.initial.run Settings.faulty Operation.faulty,
      (session.registry.get? "b.sty").map Instance.component =
        some ⟨["b.sty"], ["a.sty", "c.sty"], .ofList ["ring", "extra"], .ofList ["knot"]⟩ ∧
      ["a.sty", "b.sty", "c.sty", "z.sty"].map session.registry.state =
        [.skipped, .registered, .skipped, .unresolved] ∧
      ["b.sty", "c.sty"].map session.memo.contains = [true, true] ∧
      (∃ answer ∈ session.resolve Settings.faulty (.sample "b.sty"),
        answer.2.registry.state "b.sty" = .registered) ∧
      (∃ answer ∈ session.resolve Settings.faulty (.sample "c.sty"),
        answer.2.registry.state "c.sty" = .skipped) ∧
      ∃ answer ∈ session.resolve Settings.faulty (.unindexed "z.sty"),
        answer.2.registry.state "z.sty" = .registered := by
  decide +kernel

theorem faulty_nothing_left_halfway :
    ∃ session bound, Session.initial.run Settings.faulty Operation.faulty = some session ∧
      session.AtRest ∧
      ["a.sty", "b.sty", "c.sty", "z.sty"].map session.registry.state =
        [.skipped, .registered, .skipped, .unresolved] ∧
      (∃ after, session.resolve Settings.faulty (.sample "b.sty") = some (some bound, after) ∧
        "b.sty" ∈ bound.component.fileNames) ∧
      (∃ after, session.resolve Settings.faulty (.sample "c.sty") = some (none, after)) ∧
      ∃ other after, session.resolve Settings.faulty (.unindexed "z.sty") =
        some (some other, after) ∧ after.AtRest := by
  obtain ⟨session, ran, _, states, _, ⟨⟨found, after⟩, resolves, registered⟩,
    ⟨⟨missing, afterMissing⟩, resolvesMissing, skipped⟩,
    ⟨⟨new, afterNew⟩, resolvesNew, newRegistered⟩⟩ := run_faulty
  obtain ⟨atRest, _, answers⟩ := nothing_left_halfway ran
  obtain ⟨_, isFound, lists, _⟩ := answers _ found after resolves
  obtain ⟨bound, rfl⟩ := isFound.mpr registered
  obtain ⟨_, _, _, isMissing⟩ := answers _ missing afterMissing resolvesMissing
  obtain rfl := isMissing.mpr skipped
  obtain ⟨restsAfter, isNew, _⟩ := answers _ new afterNew resolvesNew
  obtain ⟨other, rfl⟩ := isNew.mpr newRegistered
  exact ⟨session, bound, ran, atRest, states, ⟨after, resolves, (lists bound rfl).2⟩,
    ⟨afterMissing, resolvesMissing⟩, other, afterNew, resolvesNew, restsAfter⟩

end TexAtlas
