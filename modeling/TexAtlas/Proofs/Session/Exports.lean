/-
Exports are well formed. Without overrides the symbols of a component are those that one
transcript tags, so they are in order and no command is an environment. What else a
component says comes from its group: the files, the references that leave it, and that
these are settled.
-/

import TexAtlas.Proofs.Session.Completion

namespace TexAtlas

open Clustering (namesOf)

variable {settings : Settings} {session before after : Session}

/-! ### Symbols -/

/-- Commands and environments are in ascending order, and no command is an environment. -/
structure Component.SymbolsInOrder (component : Component) : Prop where
  commands : component.commands.toList.Pairwise (· < ·)
  environments : component.environments.toList.Pairwise (· < ·)
  apart : ∀ symbol ∈ component.commands.toList, symbol ∉ component.environments.toList

theorem Probe.readTagged_apart (text : String) :
    ∀ symbol ∈ (readTagged text).commands.toList,
      symbol ∉ (readTagged text).environments.toList := by
  intro symbol isCommand isEnvironment
  have notTagged := ((SortedNames.mem_filter _ _ symbol).mp isCommand).2
  rw [Bool.not_eq_true', ← Bool.not_eq_true] at notTagged
  exact notTagged (List.contains_iff_mem.mpr isEnvironment)

theorem Probe.Classifier.apart_of_classify {classifier : Classifier} {file : File}
    {candidates : SortedNames} {classification : Classification}
    (classified : classifier.classify file candidates = .value (.ok classification)) :
    ∀ symbol ∈ classification.commands.toList, symbol ∉ classification.environments.toList := by
  unfold classify at classified
  split at classified
  · cases classified
    intro symbol impossible
    cases impossible
  · split at classified
    · cases classified
      exact readTagged_apart _
    · cases classified
    · cases classified

theorem GroupTask.symbolsInOrder_componentOf {members : List Dependency}
    {classification : Probe.Classification}
    (apart : ∀ symbol ∈ classification.commands.toList,
      symbol ∉ classification.environments.toList) :
    (componentOf members classification).SymbolsInOrder := by
  have commandsAre : (componentOf members classification).commands.toList =
      classification.commands.toList :=
    NameSet.ofList_toList_of_nodup
      (SortedNames.nodup_of_ascending classification.commands.ascending)
  have environmentsAre : (componentOf members classification).environments.toList =
      classification.environments.toList :=
    NameSet.ofList_toList_of_nodup
      (SortedNames.nodup_of_ascending classification.environments.ascending)
  refine ⟨?_, ?_, ?_⟩
  · rw [commandsAre]
    exact classification.commands.ascending
  · rw [environmentsAre]
    exact classification.environments.ascending
  · rw [commandsAre, environmentsAre]
    exact apart

/-- The symbols of every bound component are in order. -/
def Registry.SymbolsInOrder (registry : Registry) : Prop :=
  ∀ name bound, registry.get? name = some bound → bound.component.SymbolsInOrder

namespace LayersReady

variable {layer : List (List Dependency)} {layers : List (List (List Dependency))}

theorem symbolsInOrder_attributeLevel (ready : LayersReady settings session (layer :: layers))
    (schedule : List Nat) (inOrder : session.registry.SymbolsInOrder) :
    (session.attributeLevel settings schedule layer).registry.SymbolsInOrder := by
  obtain ⟨_, done, answers⟩ := Session.attributeLevel_sound ready.head schedule
  intro name bound held
  by_cases inLayer : name ∈ namesOf layer
  · obtain ⟨members, isGroup, inside⟩ := (Clustering.mem_namesOf layer name).mp inLayer
    obtain ⟨answer, ⟨reached, _, lead, rest, scannedAt, askedAt, _, answerIs⟩, follows⟩ :=
      answers members isGroup
    obtain ⟨classification, rfl, componentIs⟩ := follows.classified_of_held inside held
    rw [componentIs]
    exact GroupTask.symbolsInOrder_componentOf
      (Probe.Classifier.apart_of_classify answerIs.symm)
  · rw [(done.agree name inLayer).1] at held
    exact inOrder name bound held

theorem symbolsInOrder_attributeLevels (ready : LayersReady settings session layers)
    (inOrder : session.registry.SymbolsInOrder) :
    (session.attributeLevels settings layers).registry.SymbolsInOrder := by
  induction layers generalizing session with
  | nil => exact inOrder
  | cons layer layers ih =>
      exact ih (ready.next _) (ready.symbolsInOrder_attributeLevel _ inOrder)

end LayersReady

theorem Orderly.symbolsInOrder_part (orderly : Orderly settings anyFile before)
    (inOrder : before.registry.SymbolsInOrder)
    (part : Session.Part settings anyFile False before after) :
    after.registry.SymbolsInOrder := by
  cases part with
  | closure isAdmitted ran =>
      obtain ⟨_, ⟨rfl, _⟩ | ⟨clustering, grown, ready, rfl⟩⟩ :=
        orderly.resolveClosure_cases (fun _ _ => trivial) isAdmitted ran
      · exact inOrder
      · refine ready.layers.symbolsInOrder_attributeLevels ?_
        intro name bound held
        have settled := (ready.layers.coherent.holds_of_bound held).1
        rw [ready.settledIs] at settled
        exact inOrder name bound ((ready.later.keeps name settled).1 ▸ held)
  | dependency isAdmitted =>
      rw [(orderly.dependency isAdmitted).1]
      exact inOrder
  | applyOverrides entries impossible => exact impossible.elim

theorem Orderly.symbolsInOrder_parts (orderly : Orderly settings anyFile before)
    (inOrder : before.registry.SymbolsInOrder)
    (parts : before.Parts settings anyFile False after) :
    after.registry.SymbolsInOrder := by
  induction parts with
  | refl => exact inOrder
  | tail parts part ih =>
      exact (orderly.parts (fun _ _ => trivial) parts).1.symbolsInOrder_part ih part

/-! ### Components -/

/-- What an exported component looks like in a session. -/
structure Component.IsWellFormed (settings : Settings) (session : Session)
    (component : Component) : Prop where
  nonempty : component.fileNames ≠ []
  filesAscending : component.fileNames.Pairwise (· < ·)
  probed : ∀ name ∈ component.fileNames, session.memo.contains name = true
  referencesDistinct : component.references.Nodup
  /-- Just the references that leave the component are listed. -/
  mem_references : ∀ target, target ∈ component.references ↔
    target ∉ component.fileNames ∧
      ∃ source ∈ component.fileNames, Memo.Refers session.memo source target
  referencesAreComponents : ∀ name ∈ component.references,
    (Role.ofName name).isComponent = true
  referencesNotBaseline : ∀ name ∈ component.references, name ∉ settings.baseline.toList
  referencesSettled : ∀ name ∈ component.references,
    session.registry.state name = .registered ∨ session.registry.state name = .skipped
  symbols : component.SymbolsInOrder

theorem Orderly.isWellFormed (orderly : Orderly settings anyFile session)
    (inOrder : session.registry.SymbolsInOrder) {name : String} {bound : Instance}
    (held : session.registry.get? name = some bound) :
    bound.component.IsWellFormed settings session := by
  have coherent := orderly.coherent
  obtain ⟨_, members, group, inside, holds⟩ := coherent.holds_of_bound held
  have isOutward : ∀ target, target ∈ bound.component.references ↔
      target ∉ bound.component.fileNames ∧
        ∃ source ∈ bound.component.fileNames, Memo.Refers session.memo source target := by
    intro target
    rw [holds.references, holds.fileNames]
    constructor
    · intro outward
      exact ⟨((Component.mem_outwardReferences members target).mp outward).2,
        group.refers_of_outward outward⟩
    · rintro ⟨outside, source, sourceInside, refers⟩
      exact (group.inside_or_outward sourceInside refers).resolve_left outside
  have refers : ∀ target ∈ bound.component.references,
      ∃ source, Memo.Refers session.memo source target := by
    intro target referenced
    obtain ⟨_, source, _, refers⟩ := (isOutward target).mp referenced
    exact ⟨source, refers⟩
  refine ⟨?_, ?_, ?_, ?_, isOutward, ?_, ?_, ?_, inOrder name bound held⟩
  · rw [holds.fileNames]
    exact List.ne_nil_of_mem inside
  · rw [holds.fileNames]
    exact group.ascending
  · intro file isFile
    rw [holds.fileNames] at isFile
    exact coherent.probed_of_settled (Registry.Settles.isSettled (Or.inl ⟨bound, holds⟩) isFile)
  · rw [holds.references]
    exact NameSet.distinct _
  · intro target referenced
    obtain ⟨_, leads⟩ := refers target referenced
    exact leads.isComponent
  · intro target referenced
    obtain ⟨_, leads⟩ := refers target referenced
    exact orderly.probed.target_not_baseline leads
  · intro target referenced
    exact (session.registry.isSettled_iff target).mp (coherent.settled_of_reference held referenced)

/-- After any run without overrides, however the engine answers, the export is the registered
components in strictly ascending order of their files, and then the kernel. The components that
are listed are those that some file is bound to, a file is listed just if it is registered, and
every listed component is well formed. -/
theorem export_well_formed {operations : List Operation}
    (noOverride : ∀ operation ∈ operations, operation.isOverride = false)
    (ran : Session.initial.run settings operations = some session) :
    ∃ registered, session.exported settings = registered ++ [Component.ofKernel settings.kernel] ∧
      registered.Pairwise (fun left right => left.fileNames < right.fileNames) ∧
      (∀ component, component ∈ registered ↔
        ∃ name bound, session.registry.get? name = some bound ∧ bound.component = component) ∧
      (∀ name, session.registry.state name = .registered ↔
        ∃ component ∈ registered, name ∈ component.fileNames) ∧
      ∀ component ∈ registered, component.IsWellFormed settings session := by
  have parts : Session.initial.Parts settings anyFile False session := by
    refine Session.Parts.run (fun _ _ => trivial) (fun _ _ _ _ => trivial) ?_ ran
    intro operation member isOverride
    rw [noOverride operation member] at isOverride
    cases isOverride
  have begun := Orderly.initial settings anyFile
  have orderly := (begun.parts (fun _ _ => trivial) parts).1
  have inOrder : session.registry.SymbolsInOrder := by
    refine begun.symbolsInOrder_parts ?_ parts
    intro name bound held
    cases held
  have coherent := orderly.coherent
  have isBound : ∀ component, component ∈ session.registry.components ↔
      ∃ name bound, session.registry.get? name = some bound ∧ bound.component = component := by
    intro component
    rw [Registry.mem_components_iff coherent.numbered]
    exact exists_congr fun name => Option.map_eq_some_iff
  refine ⟨session.registry.components, rfl,
    Registry.components_ascending coherent.numbered coherent.boundExactly, isBound, ?_, ?_⟩
  · intro name
    constructor
    · intro registered
      obtain ⟨bound, held, inside⟩ := coherent.bound_of_registered registered
      exact ⟨bound.component, (isBound _).mpr ⟨name, bound, held, rfl⟩, inside⟩
    · rintro ⟨component, listed, inside⟩
      obtain ⟨other, bound, held, rfl⟩ := (isBound component).mp listed
      have nameHeld := (coherent.boundExactly other bound held name).mpr inside
      exact (coherent.registered_of_bound nameHeld).1
  · intro component listed
    obtain ⟨other, bound, held, rfl⟩ := (isBound component).mp listed
    exact orderly.isWellFormed inOrder held

/-- The knot is exported with its symbols, and with references to a package that is registered
and to one that is skipped. -/
theorem sample_export_well_formed :
    ∃ session, Session.initial.run Settings.sample Operation.sample = some session ∧
      Component.knot ∈ session.exported Settings.sample ∧
      session.registry.state "d.sty" = .skipped ∧
      Component.knot.IsWellFormed Settings.sample session := by
  obtain ⟨session, ran, _, knotAt, _, _, skipped, _⟩ := run_sample
  obtain ⟨bound, held, isKnot⟩ := Option.map_eq_some_iff.mp knotAt
  obtain ⟨registered, exportIs, _, areBound, _, wellFormed⟩ :=
    export_well_formed Operation.noOverride_sample ran
  have listed : Component.knot ∈ registered := (areBound _).mpr ⟨"a.sty", bound, held, isKnot⟩
  refine ⟨session, ran, ?_, skipped, wellFormed _ listed⟩
  rw [exportIs]
  exact List.mem_append_left _ listed

end TexAtlas
