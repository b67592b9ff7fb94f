/-
What overrides change. An entry whose target is bound gives all files of the component to one
new instance with the same files and references; nothing else about the registry changes. A
whole list therefore adds to each component the symbols of the entries about it, in order, and
a second time it has nothing left to add.
-/

import TexAtlas.Override
import TexAtlas.Proofs.Registry.Basic

namespace TexAtlas

theorem Component.extended_extended (component : Component)
    (commands environments moreCommands moreEnvironments : List String) :
    (component.extended commands environments).extended moreCommands moreEnvironments =
      component.extended (commands ++ moreCommands) (environments ++ moreEnvironments) := by
  simp [Component.extended, NameSet.extend]

namespace Registry

variable {registry : Registry}

/-- The instance that an entry makes of a component. -/
def extendedBy (registry : Registry) (entry : OverrideEntry) (bound : Instance) : Instance :=
  ⟨registry.next, bound.component.extended entry.commands entry.environments⟩

theorem exists_name_of_overrideTarget {name : String} {bound : Instance}
    (target : registry.overrideTarget name = some bound) :
    ∃ other, registry.get? other = some bound := by
  unfold overrideTarget at target
  split at target
  · rename_i found held
    cases target
    exact ⟨name, held⟩
  · split at target
    · cases target
    · exact ⟨_, target⟩

theorem applyEntry_of_missing {entry : OverrideEntry}
    (missing : registry.overrideTarget entry.name = none) :
    registry.applyEntry entry = (registry, some ⟨entry.name⟩) := by
  unfold applyEntry
  rw [missing]

theorem applyEntry_of_target {entry : OverrideEntry} {bound : Instance}
    (target : registry.overrideTarget entry.name = some bound) :
    registry.applyEntry entry =
      ({ registry with next := registry.next + 1 }.replace (registry.extendedBy entry bound),
        none) := by
  unfold applyEntry
  rw [target]
  rfl

section

variable {entry : OverrideEntry} {bound : Instance}
  (target : registry.overrideTarget entry.name = some bound)

include target

theorem get?_applyEntry (name : String) :
    (registry.applyEntry entry).1.get? name =
      if name ∈ bound.component.fileNames then some (registry.extendedBy entry bound)
      else registry.get? name := by
  rw [applyEntry_of_target target]
  exact get?_replace _ _ name

theorem next_applyEntry : (registry.applyEntry entry).1.next = registry.next + 1 := by
  rw [applyEntry_of_target target]
  exact next_replace _ _

end

theorem state_applyEntry (registry : Registry) (entry : OverrideEntry) (name : String) :
    (registry.applyEntry entry).1.state name = registry.state name := by
  cases target : registry.overrideTarget entry.name with
  | none => rw [applyEntry_of_missing target]
  | some bound =>
      rw [applyEntry_of_target target]
      exact state_replace _ _ name

theorem state_applyOverrides (registry : Registry) (entries : List OverrideEntry) (name : String) :
    (registry.applyOverrides entries).1.state name = registry.state name := by
  induction entries generalizing registry with
  | nil => rfl
  | cons entry rest ih => exact (ih _).trans (registry.state_applyEntry entry name)

/-! ### Bindings stay exact -/

/-- An entry takes all names of its component to the new instance, so instances stay bound
under just their file names. -/
theorem BoundExactly.applyEntry (exact : registry.BoundExactly) (entry : OverrideEntry) :
    (registry.applyEntry entry).1.BoundExactly := by
  cases target : registry.overrideTarget entry.name with
  | none =>
      rw [applyEntry_of_missing target]
      exact exact
  | some bound =>
      obtain ⟨targetName, targetHeld⟩ := exists_name_of_overrideTarget target
      -- Outside the component nothing is bound to the new instance, which has its file names.
      have isNew : ∀ name other, name ∉ bound.component.fileNames →
          registry.get? name = some other → registry.extendedBy entry bound ≠ other := by
        rintro name _ outside held rfl
        exact outside ((exact name _ held name).mp held)
      intro name other held another
      rw [get?_applyEntry target] at held ⊢
      split at held
      · cases held
        change _ ↔ another ∈ bound.component.fileNames
        split
        · simp [*]
        · rename_i outside
          exact ⟨fun old => absurd rfl (isNew another _ outside old),
            fun inside => absurd inside outside⟩
      · rename_i nameOutside
        rw [← exact name other held another]
        split
        · rename_i inside
          have anotherHeld := (exact targetName bound targetHeld another).mpr inside
          rw [anotherHeld, Option.some.injEq, Option.some.injEq]
          constructor
          · exact fun same => absurd same (isNew name other nameOutside held)
          · rintro rfl
            exact absurd ((exact targetName bound targetHeld name).mp held) nameOutside
        · rfl

theorem BoundExactly.applyOverrides (exact : registry.BoundExactly)
    (entries : List OverrideEntry) : (registry.applyOverrides entries).1.BoundExactly := by
  induction entries generalizing registry with
  | nil => exact exact
  | cons entry rest ih => exact ih (exact.applyEntry entry)

/-- An entry binds no new name. -/
theorem contains_applyEntry (exact : registry.BoundExactly) (entry : OverrideEntry)
    (name : String) : (registry.applyEntry entry).1.contains name = registry.contains name := by
  cases target : registry.overrideTarget entry.name with
  | none => rw [applyEntry_of_missing target]
  | some bound =>
      obtain ⟨targetName, targetHeld⟩ := exists_name_of_overrideTarget target
      rw [contains, contains, get?_applyEntry target]
      split
      · rename_i inside
        rw [(exact targetName bound targetHeld name).mpr inside]
        rfl
      · rfl

theorem contains_applyOverrides (exact : registry.BoundExactly) (entries : List OverrideEntry)
    (name : String) :
    (registry.applyOverrides entries).1.contains name = registry.contains name := by
  induction entries generalizing registry with
  | nil => rfl
  | cons entry rest ih =>
      exact (ih (exact.applyEntry entry)).trans (contains_applyEntry exact entry name)

/-! ### What an entry is about -/

/-- The file an entry is about: the one it names or, for a name without a dot that is not
bound, the package file of that name. -/
def targetFile (registry : Registry) (entry : OverrideEntry) : String :=
  if registry.contains entry.name || entry.name.toList.contains '.' then entry.name
  else entry.name ++ ".sty"

theorem overrideTarget_eq (registry : Registry) (entry : OverrideEntry) :
    registry.overrideTarget entry.name = registry.get? (registry.targetFile entry) := by
  unfold overrideTarget targetFile contains
  cases held : registry.get? entry.name with
  | some bound => simp [held]
  | none => cases dotted : entry.name.toList.contains '.' <;> simp [held]

/-- What an entry is about depends on nothing but the names that are bound. -/
theorem targetFile_congr {other : Registry}
    (same : ∀ name, other.contains name = registry.contains name) (entry : OverrideEntry) :
    other.targetFile entry = registry.targetFile entry := by
  rw [targetFile, targetFile, same]

/-- The entries whose target is not bound, by their names. -/
def missingTargets (registry : Registry) (entries : List OverrideEntry) : List OverrideError :=
  (entries.filter (fun entry => !registry.contains (registry.targetFile entry))).map
    (fun entry => ⟨entry.name⟩)

theorem missingTargets_congr {other : Registry}
    (same : ∀ name, other.contains name = registry.contains name)
    (entries : List OverrideEntry) :
    other.missingTargets entries = registry.missingTargets entries := by
  simp only [missingTargets, targetFile_congr same, same]

theorem applyEntry_error (registry : Registry) (entry : OverrideEntry) :
    (registry.applyEntry entry).2.toList = registry.missingTargets [entry] := by
  have targetIs := registry.overrideTarget_eq entry
  cases target : registry.overrideTarget entry.name with
  | none =>
      rw [applyEntry_of_missing target]
      simp [missingTargets, contains, ← targetIs, target]
  | some bound =>
      rw [applyEntry_of_target target]
      simp [missingTargets, contains, ← targetIs, target]

theorem applyOverrides_errors (exact : registry.BoundExactly) (entries : List OverrideEntry) :
    (registry.applyOverrides entries).2 = registry.missingTargets entries := by
  induction entries generalizing registry with
  | nil => rfl
  | cons entry rest ih =>
      have later := ih (exact.applyEntry entry)
      rw [missingTargets_congr (contains_applyEntry exact entry)] at later
      calc (registry.applyOverrides (entry :: rest)).2
          = (registry.applyEntry entry).2.toList ++
              ((registry.applyEntry entry).1.applyOverrides rest).2 := rfl
        _ = registry.missingTargets [entry] ++ registry.missingTargets rest := by
            rw [applyEntry_error, later]
        _ = registry.missingTargets (entry :: rest) := by
            rw [missingTargets, missingTargets, ← List.map_append, ← List.filter_append]
            rfl

/-! ### What becomes of a component -/

/-- The entries about a file of the component. -/
def entriesAbout (registry : Registry) (entries : List OverrideEntry) (component : Component) :
    List OverrideEntry :=
  entries.filter (fun entry => component.containsFile (registry.targetFile entry))

/-- The component with the symbols of all entries about it. -/
def corrected (registry : Registry) (entries : List OverrideEntry) (component : Component) :
    Component :=
  component.extended
    ((registry.entriesAbout entries component).flatMap OverrideEntry.commands)
    ((registry.entriesAbout entries component).flatMap OverrideEntry.environments)

theorem corrected_congr {other : Registry}
    (same : ∀ name, other.contains name = registry.contains name)
    (entries : List OverrideEntry) :
    other.corrected entries = registry.corrected entries := by
  funext component
  simp only [corrected, entriesAbout, targetFile_congr same]

@[simp] theorem corrected_nil (registry : Registry) (component : Component) :
    registry.corrected [] component = component := rfl

theorem corrected_of_about {entry : OverrideEntry} {component : Component}
    (about : component.containsFile (registry.targetFile entry) = true) :
    registry.corrected [entry] component =
      component.extended entry.commands entry.environments := by
  simp [corrected, entriesAbout, about]

theorem corrected_of_not_about {entry : OverrideEntry} {component : Component}
    (notAbout : component.containsFile (registry.targetFile entry) = false) :
    registry.corrected [entry] component = component := by
  simp [corrected, entriesAbout, notAbout, Component.extended, NameSet.extend]

theorem corrected_cons (registry : Registry) (entry : OverrideEntry)
    (rest : List OverrideEntry) (component : Component) :
    registry.corrected (entry :: rest) component =
      registry.corrected rest (registry.corrected [entry] component) := by
  cases about : component.containsFile (registry.targetFile entry) with
  | false =>
      rw [corrected_of_not_about about]
      simp [corrected, entriesAbout, about]
  | true =>
      rw [corrected_of_about about]
      have sameFiles : registry.entriesAbout rest
          (component.extended entry.commands entry.environments) =
            registry.entriesAbout rest component := rfl
      rw [corrected, corrected, sameFiles, Component.extended_extended]
      simp [entriesAbout, about]

/-- What one entry makes of the component of a file. -/
theorem component_applyEntry (exact : registry.BoundExactly) (entry : OverrideEntry)
    (name : String) :
    ((registry.applyEntry entry).1.get? name).map Instance.component =
      ((registry.get? name).map Instance.component).map (registry.corrected [entry]) := by
  have targetIs := registry.overrideTarget_eq entry
  cases target : registry.overrideTarget entry.name with
  | none =>
      rw [applyEntry_of_missing target]
      cases held : registry.get? name with
      | none => rfl
      | some other =>
          have notAbout : other.component.containsFile (registry.targetFile entry) = false := by
            rw [Bool.eq_false_iff]
            intro about
            have targetHeld := (exact name other held _).mpr (List.contains_iff_mem.mp about)
            rw [← targetIs, target] at targetHeld
            cases targetHeld
          rw [Option.map_some, Option.map_some, corrected_of_not_about notAbout]
  | some bound =>
      have targetHeld := targetIs.symm.trans target
      rw [get?_applyEntry target]
      split
      · rename_i inside
        have held := (exact _ bound targetHeld name).mpr inside
        have about := List.contains_iff_mem.mpr ((exact _ bound targetHeld _).mp targetHeld)
        rw [held, Option.map_some, Option.map_some, Option.map_some, corrected_of_about about]
        rfl
      · rename_i outside
        cases held : registry.get? name with
        | none => rfl
        | some other =>
            have notAbout : other.component.containsFile (registry.targetFile entry) = false := by
              rw [Bool.eq_false_iff]
              intro about
              have otherHeld := (exact name other held _).mpr (List.contains_iff_mem.mp about)
              rw [targetHeld] at otherHeld
              cases otherHeld
              exact outside ((exact name bound held name).mp held)
            rw [Option.map_some, Option.map_some, corrected_of_not_about notAbout]

/-- Overrides act on each component by itself. -/
theorem component_applyOverrides (exact : registry.BoundExactly) (entries : List OverrideEntry)
    (name : String) :
    ((registry.applyOverrides entries).1.get? name).map Instance.component =
      ((registry.get? name).map Instance.component).map (registry.corrected entries) := by
  induction entries generalizing registry with
  | nil => exact (congrFun Option.map_id _).symm
  | cons entry rest ih =>
      have later := ih (exact.applyEntry entry)
      rw [corrected_congr (contains_applyEntry exact entry), component_applyEntry exact,
        Option.map_map] at later
      refine later.trans (congrArg (Option.map · _) ?_)
      funext component
      exact (registry.corrected_cons entry rest component).symm

end Registry

/-! ### Where bare names are not bound -/

/-- Only names with a dot are bound. -/
def Registry.Dotted (registry : Registry) : Prop :=
  ∀ name bound, registry.get? name = some bound → '.' ∈ name.toList

/-- An entry names a file of the component, or the bare name of a package file of it. -/
def OverrideEntry.aimsAt (entry : OverrideEntry) (component : Component) : Bool :=
  component.containsFile entry.name ||
    (!entry.name.toList.contains '.' && component.containsFile (entry.name ++ ".sty"))

/-- The component with the symbols of every entry that is aimed at it. -/
def Component.overridden (entries : List OverrideEntry) (component : Component) : Component :=
  entries.foldl (fun component entry =>
    if entry.aimsAt component then component.extended entry.commands entry.environments
    else component) component

namespace Registry

variable {registry : Registry}

/-- Where bare names are not bound, it can be told from a component alone which entries are
about it. -/
theorem aimsAt_eq (exact : registry.BoundExactly) (dotted : registry.Dotted) {name : String}
    {bound : Instance} (held : registry.get? name = some bound) (entry : OverrideEntry) :
    entry.aimsAt bound.component = bound.component.containsFile (registry.targetFile entry) := by
  have isFile : ∀ other, bound.component.containsFile other = true ↔
      registry.get? other = some bound := fun other =>
    List.contains_iff_mem.trans (exact name bound held other).symm
  rw [Bool.eq_iff_iff, OverrideEntry.aimsAt, Bool.or_eq_true, Bool.and_eq_true, isFile, isFile,
    isFile, ← overrideTarget_eq, overrideTarget, Bool.not_eq_true']
  cases entryHeld : registry.get? entry.name with
  | some other =>
      have hasDot := dotted _ _ entryHeld
      simp [hasDot]
  | none =>
      cases entry.name.toList.contains '.' <;> simp

theorem overridden_eq_corrected (exact : registry.BoundExactly) (dotted : registry.Dotted)
    {name : String} {bound : Instance} (held : registry.get? name = some bound)
    (entries : List OverrideEntry) :
    bound.component.overridden entries = registry.corrected entries bound.component := by
  -- The fold meets only components with the files of the bound one.
  suffices general : ∀ component : Component,
      component.fileNames = bound.component.fileNames →
        component.overridden entries = registry.corrected entries component from
    general bound.component rfl
  induction entries with
  | nil => exact fun _ _ => rfl
  | cons entry rest ih =>
      intro component sameFiles
      have aims : entry.aimsAt component =
          component.containsFile (registry.targetFile entry) := by
        have aimsAtBound := aimsAt_eq exact dotted held entry
        unfold OverrideEntry.aimsAt Component.containsFile at aimsAtBound ⊢
        rwa [sameFiles]
      rw [corrected_cons, Component.overridden, List.foldl_cons, aims]
      cases about : component.containsFile (registry.targetFile entry) with
      | false =>
          rw [corrected_of_not_about about]
          exact ih component sameFiles
      | true =>
          rw [corrected_of_about about]
          exact ih _ sameFiles

/-- Where bare names are not bound, what becomes of a component does not depend on what else
is bound. -/
theorem component_applyOverrides_of_dotted (exact : registry.BoundExactly)
    (dotted : registry.Dotted) (entries : List OverrideEntry) (name : String) :
    ((registry.applyOverrides entries).1.get? name).map Instance.component =
      ((registry.get? name).map Instance.component).map (Component.overridden entries) := by
  rw [component_applyOverrides exact]
  cases held : registry.get? name with
  | none => rfl
  | some bound =>
      rw [Option.map_some, Option.map_some, Option.map_some,
        overridden_eq_corrected exact dotted held]

/-! ### A whole list of corrections -/

theorem fileNames_corrected (registry : Registry) (entries : List OverrideEntry)
    (component : Component) :
    (registry.corrected entries component).fileNames = component.fileNames := rfl

theorem commands_corrected (registry : Registry) (entries : List OverrideEntry)
    (component : Component) :
    (registry.corrected entries component).commands.toList =
      (component.commands.toList ++
        (registry.entriesAbout entries component).flatMap OverrideEntry.commands).eraseDups :=
  NameSet.toList_extend ..

theorem environments_corrected (registry : Registry) (entries : List OverrideEntry)
    (component : Component) :
    (registry.corrected entries component).environments.toList =
      (component.environments.toList ++
        (registry.entriesAbout entries component).flatMap OverrideEntry.environments).eraseDups :=
  NameSet.toList_extend ..

/-- The symbols of a correction are there after it, so it changes nothing when repeated. -/
theorem corrected_corrected (registry : Registry) (entries : List OverrideEntry)
    (component : Component) :
    registry.corrected entries (registry.corrected entries component) =
      registry.corrected entries component := by
  have sameEntries : registry.entriesAbout entries (registry.corrected entries component) =
      registry.entriesAbout entries component := rfl
  rw [corrected, sameEntries, corrected, Component.extended_extended]
  simp only [Component.extended, NameSet.extend_append_self]

/-- Corrections report exactly the entries without a target and give to every component exactly
the symbols of the entries about it, after those that it has. Files, references, states and the
bound names stay, all files of a component share one instance, and the same corrections once
more change nothing. -/
theorem overrides_exact (exact : registry.BoundExactly) (entries : List OverrideEntry) :
    let (after, errors) := registry.applyOverrides entries
    errors = registry.missingTargets entries ∧
    (∀ name, after.contains name = registry.contains name) ∧
    (∀ name, after.state name = registry.state name) ∧
    (∀ name old, registry.get? name = some old →
      ∃ new, after.get? name = some new ∧
        new.component.fileNames = old.component.fileNames ∧
        new.component.references = old.component.references ∧
        new.component.commands.toList =
          (old.component.commands.toList ++
            (registry.entriesAbout entries old.component).flatMap
              OverrideEntry.commands).eraseDups ∧
        new.component.environments.toList =
          (old.component.environments.toList ++
            (registry.entriesAbout entries old.component).flatMap
              OverrideEntry.environments).eraseDups) ∧
    after.BoundExactly ∧
    (after.applyOverrides entries).2 = errors ∧
    (∀ name, ((after.applyOverrides entries).1.get? name).map Instance.component =
      (after.get? name).map Instance.component) := by
  have sameNames := contains_applyOverrides exact entries
  have becomes := component_applyOverrides exact entries
  have stillExact := exact.applyOverrides entries
  refine ⟨applyOverrides_errors exact entries, sameNames,
    registry.state_applyOverrides entries, ?_, stillExact, ?_, ?_⟩
  · intro name old held
    have corrects := becomes name
    rw [held] at corrects
    obtain ⟨new, newHeld, isCorrected⟩ := Option.map_eq_some_iff.mp corrects
    refine ⟨new, newHeld, ?_⟩
    rw [isCorrected]
    exact ⟨rfl, rfl, registry.commands_corrected entries old.component,
      registry.environments_corrected entries old.component⟩
  · rw [applyOverrides_errors stillExact, missingTargets_congr sameNames,
      applyOverrides_errors exact]
  · intro name
    rw [component_applyOverrides stillExact, corrected_congr sameNames, becomes, Option.map_map]
    refine congrArg (Option.map · _) ?_
    funext component
    exact registry.corrected_corrected entries component

/-- Two files that load each other. -/
def sampleCycle : Instance :=
  ⟨0, { fileNames := ["a.sty", "b.sty"]
        references := ["base.sty"]
        commands := .ofList ["alpha"]
        environments := .empty }⟩

/-- A registry that also has a file without an extension. -/
def sampleRegistry : Registry :=
  let tool : Instance :=
    ⟨1, { fileNames := ["tool"], references := [], commands := .empty, environments := .empty }⟩
  { (empty.register sampleCycle).register tool with next := 2 }

/-- Corrections of the cycle through both of its files, one of the file without an extension,
and one without a target. -/
def sampleCorrections : List OverrideEntry :=
  [⟨"b", ["alpha", "manual"], ["curated"]⟩, ⟨"tool.sty", ["x"], []⟩, ⟨"tool", ["tool"], []⟩,
    ⟨"a.sty", ["late", "manual"], []⟩]

theorem sample_overrides_exact :
    sampleRegistry.BoundExactly ∧
    (sampleRegistry.applyOverrides sampleCorrections).2 = [⟨"tool.sty"⟩] ∧
    ∃ new, (sampleRegistry.applyOverrides sampleCorrections).1.get? "a.sty" = some new ∧
      (sampleRegistry.applyOverrides sampleCorrections).1.get? "b.sty" = some new ∧
      new.component.commands.toList = ["alpha", "manual", "late"] ∧
      new.component.environments.toList = ["curated"] := by
  have exact : sampleRegistry.BoundExactly := by
    apply BoundExactly.register
    · apply boundExactly_empty.register
      exact fun _ _ => rfl
    · decide +kernel
  have held : sampleRegistry.get? "a.sty" = some sampleCycle := by
    decide +kernel
  obtain ⟨errors, _, _, becomes, shared, _⟩ := overrides_exact exact sampleCorrections
  obtain ⟨new, newHeld, sameFiles, _, commands, environments⟩ := becomes "a.sty" _ held
  have isMember : "b.sty" ∈ new.component.fileNames := by
    rw [sameFiles]
    decide +kernel
  refine ⟨exact, errors.trans (by decide +kernel), new, newHeld,
    (shared "a.sty" new newHeld "b.sty").mpr isMember, commands.trans (by decide +kernel),
    environments.trans (by decide +kernel)⟩

end Registry

end TexAtlas
