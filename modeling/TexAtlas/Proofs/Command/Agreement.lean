/-
The two commands agree. Showing one file resolves nothing but what the file needs, indexing
resolves everything; yet both tell the same about the file, and overrides act on its
component by itself, so they extend it in the same way in both registries.
-/

import TexAtlas.Command.Run
import TexAtlas.Proofs.Extension
import TexAtlas.Proofs.Session.Completion
import TexAtlas.Proofs.Session.Lockstep
import TexAtlas.Proofs.Session.OrderIndependence

namespace TexAtlas

variable {settings : Settings} {session after : Session} {file : File}
  {overrides : List OverrideEntry}

/-! ### Dots -/

/-- What a run from nothing binds has a dot in its name, if the files of the index have. -/
theorem Advance.dotted {roots : String → Prop}
    (advance : Advance settings roots Session.initial after)
    (rootsIndexed : ∀ root, roots root → settings.index.contains root = true)
    (dots : ∀ file ∈ settings.index.files, '.' ∈ file.name.toList) : after.registry.Dotted := by
  intro name bound held
  have settled := (advance.sound.coherent.holds_of_bound held).1
  rcases advance.origin name settled with impossible | ⟨root, isRoot, reaches⟩
  · cases impossible
  · -- A settled file is a root, which the index has, or a class or style that another loads.
    rcases reaches.cases_tail with same | ⟨_, _, refers⟩
    · obtain ⟨file, known⟩ := (FileIndex.contains_iff _ _).mp (rootsIndexed root isRoot)
      obtain ⟨member, named⟩ := FileIndex.mem_of_lookup known
      rw [same, ← named]
      exact dots file member
    · exact Role.dot_mem_of_isComponent refers.isComponent

theorem dotted_of_indexed {files : List File}
    (dots : ∀ file ∈ settings.index.files, '.' ∈ file.name.toList)
    (indexed : ∀ file ∈ files, file ∈ settings.index.files)
    (ran : (Session.initial.index settings files).map Prod.snd = some after) :
    after.registry.Dotted := by
  refine (index_advance (Sound.initial settings) indexed ran).dotted ?_ dots
  rintro root (isHost | isFile)
  · exact isHost.2
  · obtain ⟨file, member, rfl⟩ := List.mem_map.mp isFile
    exact contains_of_mem_index (indexed file member)

theorem dotted_of_resolved {found : Option Instance}
    (dots : ∀ file ∈ settings.index.files, '.' ∈ file.name.toList)
    (indexed : file ∈ settings.index.files)
    (ran : Session.initial.resolve settings file = some (found, after)) :
    after.registry.Dotted := by
  refine (resolve_advance (Sound.initial settings) indexed ran).1.dotted ?_ dots
  rintro root (isHost | rfl)
  · exact isHost.2
  · exact contains_of_mem_index indexed

/-! ### Overridden sessions -/

/-- The component that a session has for a file once it is overridden. -/
def Session.overriddenComponent (overrides : List OverrideEntry) (session : Session)
    (name : String) : Option Component :=
  ((session.registry.get? name).map Instance.component).map (Component.overridden overrides)

theorem Orderly.component_applyOverrides {admitted : File → Prop}
    (orderly : Orderly settings admitted session) (dotted : session.registry.Dotted)
    (overrides : List OverrideEntry) (name : String) :
    ((session.applyOverrides overrides).2.registry.get? name).map Instance.component =
      session.overriddenComponent overrides name :=
  Registry.component_applyOverrides_of_dotted orderly.coherent.boundExactly dotted overrides name

/-- Of what is exported just the component of a file lists the file. -/
theorem Orderly.filter_exported {admitted : File → Prop}
    (orderly : Orderly settings admitted session) (dotted : session.registry.Dotted)
    (overrides : List OverrideEntry) (name : String) :
    ((session.applyOverrides overrides).2.exported settings).filter
        (fun component => component.containsFile name) =
      (session.overriddenComponent overrides name).toList := by
  have coherent := (orderly.applyOverrides overrides).coherent
  rw [Session.exported, List.filter_append,
    Registry.filter_components coherent.numbered coherent.boundExactly,
    orderly.component_applyOverrides dotted]
  exact List.append_nil _

namespace Command

/-! ### The commands -/

theorem indexed_eq_ok {components : List Component} {final : Session}
    (ran : indexed settings overrides none = (.ok components, final)) :
    ∃ report done, Session.initial.index settings (Session.targets settings) =
        some (report, done) ∧
      components = (done.applyOverrides overrides).2.exported settings ∧
        final = (done.applyOverrides overrides).2 := by
  unfold indexed at ran
  dsimp only at ran
  split at ran
  · cases ran
  · rename_i report done indexes
    cases ran
    exact ⟨report, done, indexes, rfl, rfl⟩

/-- What is shown of a file whose resolution ended. -/
theorem classified_eq {found : Option Instance}
    (dots : ∀ file ∈ settings.index.files, '.' ∈ file.name.toList)
    (indexed : file ∈ settings.index.files)
    (ran : Session.initial.resolve settings file = some (found, session)) :
    (classified settings overrides file.name).1 =
      (session.overriddenComponent overrides file.name).elim
        (.error (.unclassified file.name)) .ok := by
  have dotted := dotted_of_resolved dots indexed ran
  obtain ⟨orderly, _, _, rfl⟩ := (Orderly.initial settings anyFile).resolve ran
  have overridden := orderly.component_applyOverrides dotted overrides file.name
  unfold classified
  rw [FileIndex.resolve_of_mem indexed, ran]
  cases held : session.registry.get? file.name with
  | none => simp [Session.overriddenComponent, held]
  | some bound =>
      rw [Session.overriddenComponent, held] at overridden
      obtain ⟨final, finalHeld, isComponent⟩ := Option.map_eq_some_iff.mp overridden
      simp [Session.overriddenComponent, held, finalHeld, isComponent]

theorem classified_endless (indexed : file ∈ settings.index.files)
    (ran : Session.initial.resolve settings file = none) :
    (classified settings overrides file.name).1 = .error .endless := by
  unfold classified
  rw [FileIndex.resolve_of_mem indexed, ran]

end Command

/-! ### One file or all of them -/

section

variable {pool : TaskPool} {schedule : List (List String) → List Nat} {single : Session}

theorem mem_index_of_target (isTarget : file ∈ Session.targets settings) :
    file ∈ settings.index.files :=
  (List.mem_filter.mp isTarget).1

/-- The targets of a distribution are classes and styles. -/
theorem isComponent_of_target (isTarget : file ∈ Session.targets settings) :
    file.role.isComponent = true := by
  have listed := List.contains_iff_mem.mp (List.mem_filter.mp isTarget).2
  rcases List.mem_cons.mp listed with isClass | later
  · rw [isClass]
    rfl
  · rw [List.mem_singleton.mp later]
    rfl

theorem mem_targetsAmong_targets (isTarget : file ∈ Session.targets settings) :
    file ∈ Session.targetsAmong (Session.targets settings) :=
  List.mem_filter.mpr ⟨isTarget, isComponent_of_target isTarget⟩

/-- To index a single target from nothing is to resolve it. -/
theorem index_single (isTarget : file ∈ Session.targets settings) :
    (Session.initial.index settings [file]).map Prod.snd =
      (Session.initial.resolve settings file).map Prod.snd := by
  have alone : Session.targetsAmong [file] = [file] :=
    List.filter_cons_of_pos (isComponent_of_target isTarget)
  unfold Session.index
  simp only [alone, List.foldlM_cons, Option.map_map]
  change Option.map _ (Option.bind ((Session.initial.resolve settings file).map Prod.snd) _) = _
  cases Session.initial.resolve settings file with
  | none => rfl
  | some found => rfl

/-- A session that resolved one target ends up with the same component for it as a session
that indexed everything, in whatever pool and under whatever schedule. -/
theorem alike_of_resolved {found : Option Instance} (steady : settings.Steady)
    (isTarget : file ∈ Session.targets settings)
    (indexes : (Session.initial.index settings (Session.targets settings)).map Prod.snd =
      some after)
    (resolves : Session.initial.resolve (settings.under pool schedule) file =
      some (found, single)) :
    after.registry.AlikeOn single.registry file.name := by
  have indexed := mem_index_of_target isTarget
  have allIndexed : ∀ file ∈ Session.targets settings, file ∈ settings.index.files :=
    fun _ => mem_index_of_target
  have both :=
    (Lockstep.refl (Orderly.initial settings anyFile) pool schedule).resolve steady file
  obtain ⟨⟨alone, middle⟩, ran, lockstep⟩ := exists_left_of_rel both resolves
  have indexesAlone : (Session.initial.index settings [file]).map Prod.snd = some middle := by
    rw [index_single isTarget, ran]
    rfl
  obtain ⟨_, _, settled⟩ := (Orderly.initial settings anyFile).index indexes
  obtain ⟨_, _, settledAlone, _⟩ := (Orderly.initial settings anyFile).resolve ran
  have alike := alike_of_indexed steady allIndexed
    (fun other member => List.mem_singleton.mp member ▸ indexed) indexes indexesAlone
    (settled file (mem_targetsAmong_targets isTarget)) settledAlone
  exact alike.trans (lockstep.alike file.name)

/-- A target is shown with the component that an index run of everything has for it. -/
theorem Command.classified_under_eq {found : Option Instance} (steady : settings.Steady)
    (dots : ∀ file ∈ settings.index.files, '.' ∈ file.name.toList)
    (isTarget : file ∈ Session.targets settings)
    (indexes : (Session.initial.index settings (Session.targets settings)).map Prod.snd =
      some after)
    (resolves : Session.initial.resolve (settings.under pool schedule) file =
      some (found, single)) :
    (classified (settings.under pool schedule) overrides file.name).1 =
      (after.overriddenComponent overrides file.name).elim
        (.error (.unclassified file.name)) .ok := by
  have otherDots : ∀ file ∈ (settings.under pool schedule).index.files,
      '.' ∈ file.name.toList := dots
  have alike := alike_of_resolved steady isTarget indexes resolves
  rw [classified_eq otherDots (mem_index_of_target isTarget) resolves,
    Session.overriddenComponent, Session.overriddenComponent, alike.component]

/-- A target can be resolved within as many waves as an index run of everything has probed
files. -/
theorem resolve_completes (steady : settings.Steady) (isTarget : file ∈ Session.targets settings)
    (indexes : (Session.initial.index settings (Session.targets settings)).map Prod.snd =
      some after)
    (enough : after.probed ≤ settings.waveLimit) :
    ∃ found single,
      Session.initial.resolve (settings.under pool schedule) file = some (found, single) := by
  have indexed := mem_index_of_target isTarget
  have member := mem_targetsAmong_targets isTarget
  obtain ⟨ready, run⟩ := Indexed.of_index (fun _ => mem_index_of_target)
    (List.ne_nil_of_mem member) indexes
  obtain ⟨found, single, ends⟩ := Session.resolveClosure_completes steady run.goesOn.sound enough
    run.readySound indexed (run.rootsSettled file.name (Or.inr (List.mem_map_of_mem member)))
  have resolves : Session.initial.resolve settings file = some (found, single) := by
    rw [Session.resolve, run.based]
    exact ends
  have both :=
    (Lockstep.refl (Orderly.initial settings anyFile) pool schedule).resolve steady file
  rw [resolves] at both
  cases other : Session.initial.resolve (settings.under pool schedule) file with
  | none =>
      rw [other] at both
      cases both
  | some answer => exact ⟨answer.1, answer.2, rfl⟩

end

/-- Showing a target tells what an index run of everything tells about it: the component that is
shown is the one among all components that lists the file, and where the file could not be
classified no component lists it. One of the two happens if discoveries may take as many waves
as the index run has probed files. -/
theorem Command.classified_agrees_with_indexed {root : Path} {text : String}
    {components : List Component} {whole : Session} (steady : settings.Steady)
    (listed : settings.index = Listing.index root text)
    (ran : indexed settings overrides none = (.ok components, whole))
    (isTarget : file ∈ Session.targets settings) (pool : TaskPool)
    (schedule : List (List String) → List Nat) :
    let shown := (classified (settings.under pool schedule) overrides file.name).1
    (∀ component, shown = .ok component →
      components.filter (fun other => other.containsFile file.name) = [component]) ∧
    (shown = .error (.unclassified file.name) →
      ∀ component ∈ components, file.name ∉ component.fileNames) ∧
    (whole.probed ≤ settings.waveLimit →
      (∃ component, shown = .ok component) ∨ shown = .error (.unclassified file.name)) := by
  intro shown
  obtain ⟨report, done, indexes, rfl, rfl⟩ := indexed_eq_ok ran
  have ended : (Session.initial.index settings (Session.targets settings)).map Prod.snd =
      some done := by
    rw [indexes]
    rfl
  have dots : ∀ file ∈ settings.index.files, '.' ∈ file.name.toList := by
    rw [listed]
    exact fun _ => Listing.dot_mem_of_mem_index
  have dotted := dotted_of_indexed dots (fun _ => mem_index_of_target) ended
  obtain ⟨orderly, _, _⟩ := (Orderly.initial settings anyFile).index ended
  have exported := orderly.filter_exported dotted overrides file.name
  cases answer : Session.initial.resolve (settings.under pool schedule) file with
  | none =>
      -- The waves ran out, so neither a component nor a failed classification is told.
      have endless : shown = .error .endless :=
        classified_endless (mem_index_of_target isTarget) answer
      refine ⟨?_, ?_, ?_⟩
      · intro component isShown
        cases endless.symm.trans isShown
      · intro isShown
        cases endless.symm.trans isShown
      · intro enough
        obtain ⟨_, _, ends⟩ := resolve_completes steady isTarget ended enough
        cases answer.symm.trans ends
  | some both =>
      have tells : shown = _ := classified_under_eq steady dots isTarget ended answer
      cases found : done.overriddenComponent overrides file.name with
      | none =>
          rw [found] at tells exported
          refine ⟨?_, ?_, fun _ => Or.inr tells⟩
          · intro component isShown
            cases tells.symm.trans isShown
          · intro _ component member lists
            exact List.filter_eq_nil_iff.mp exported component member
              (List.contains_iff_mem.mpr lists)
      | some component =>
          rw [found] at tells exported
          refine ⟨?_, ?_, fun _ => Or.inl ⟨component, tells⟩⟩
          · intro other isShown
            cases tells.symm.trans isShown
            exact exported
          · intro isShown
            cases tells.symm.trans isShown

/-- The small distribution as a listing names it. -/
def Settings.sampleListed : Settings :=
  { Settings.sample with
    index := Listing.index (Path.ofString "/texmf")
      "./tex/latex/base:\narticle.cls\na.sty\nb.sty\nc.sty\nd.sty\n" }

/-- A correction that names the package `b.sty` by its bare name. -/
def OverrideEntry.sample : List OverrideEntry :=
  [⟨"b", ["extra"], []⟩]

theorem sample_classified_agrees_with_indexed :
    ∃ components component,
      (Command.indexed Settings.sampleListed OverrideEntry.sample none).1 = .ok components ∧
      (Command.classified (Settings.sampleListed.under (.parallel 2) (fun _ => [1, 0, 1]))
        OverrideEntry.sample "a.sty").1 = .ok component ∧
      component.commands.toList = ["ring", "extra"] ∧
      components.filter (fun other => other.containsFile "a.sty") = [component] := by
  have known : (Command.indexed Settings.sampleListed OverrideEntry.sample
      none).1.toOption.isSome = true := by
    decide +kernel
  have shows : (Command.classified
      (Settings.sampleListed.under (.parallel 2) (fun _ => [1, 0, 1]))
      OverrideEntry.sample "a.sty").1.toOption.map (fun component =>
        component.commands.toList) = some ["ring", "extra"] := by
    decide +kernel
  have steady : Settings.sampleListed.Steady := ⟨fun _ => rfl, fun _ => rfl⟩
  have isTarget : ∃ file ∈ Session.targets Settings.sampleListed, file.name = "a.sty" := by
    decide +kernel
  obtain ⟨file, isTarget, named⟩ := isTarget
  cases ran : Command.indexed Settings.sampleListed OverrideEntry.sample none with
  | mk result whole =>
      rw [ran] at known
      cases result with
      | error complaint => cases known
      | ok components =>
          obtain ⟨agrees, _, _⟩ := Command.classified_agrees_with_indexed steady rfl ran isTarget
            (.parallel 2) (fun _ => [1, 0, 1])
          rw [named] at agrees
          cases shown : (Command.classified
              (Settings.sampleListed.under (.parallel 2) (fun _ => [1, 0, 1]))
              OverrideEntry.sample "a.sty").1 with
          | error complaint =>
              rw [shown] at shows
              cases shows
          | ok component =>
              rw [shown] at shows
              exact ⟨components, component, rfl, rfl, Option.some.inj shows,
                agrees component shown⟩
end TexAtlas
