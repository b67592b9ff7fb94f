/-
Schedules do not matter. The tasks of one level, taking their steps in any order, leave the
same states and the same bindings as one task after the other; so an index run gives the same
report and the same export in every pool and under every schedule.
-/

import TexAtlas.Proofs.Session.Lockstep

namespace TexAtlas

variable {settings : Settings} {session : Session}

/-- Two sessions have attributed the same, up to the identity of instances: files are in the
same states, bound to equal components, and bound together where they are in the other. -/
structure Session.SameAttribution (left right : Session) : Prop where
  state : ∀ name, right.registry.state name = left.registry.state name
  component : ∀ name, (right.registry.get? name).map Instance.component =
    (left.registry.get? name).map Instance.component
  shares : ∀ one two, right.registry.shares one two = left.registry.shares one two

theorem LayersReady.sameAttribution {layer : List (List Dependency)}
    {layers : List (List (List Dependency))} (steady : settings.Steady)
    (ready : LayersReady settings session (layer :: layers)) (order otherOrder : List Nat) :
    (session.attributeLevel settings order layer).SameAttribution
      (session.attributeLevel settings otherOrder layer) := by
  have same : LayersReady (settings.under settings.pool settings.schedule) session
      (layer :: layers) := ready
  have alike := ready.alike_attributeLevel steady same
    (fun name => Registry.AlikeOn.refl session.registry name) order otherOrder
  exact ⟨fun name => (alike name).state, fun name => (alike name).component,
    (ready.next order).coherent.shares_congr (ready.next otherOrder).coherent alike⟩

/-- At every level of every clustering that a run comes to work on, whatever files it is about,
any order of steps attributes the same as one task after the other; and an index run reports and
exports the same in every pool and under every schedule. -/
theorem schedules_agree (steady : settings.Steady) (reachable : session.Reachable settings) :
    (∀ entry, session.registry.get? entry.name = none →
      session.registry.isSkipped entry.name = false → ∀ clustering grown,
      session.cluster settings entry = some (clustering, grown) → ∀ before level after,
      clustering.byLevel = before ++ level :: after → ∀ order : List Nat,
        let base := (grown.marked clustering).attributeLevels settings before
        (base.attributeLevel settings [] level).SameAttribution
          (base.attributeLevel settings order level)) ∧
    ∀ (files : List File) (pool : TaskPool) (schedule : List (List String) → List Nat),
      (session.index (settings.under pool schedule) files).map
          (fun (report, done) => (report, done.exported settings)) =
        (session.index settings files).map
          (fun (report, done) => (report, done.exported settings)) := by
  have orderly := reachable.orderly
  constructor
  · intro entry unbound notSkipped clustering grown clustered before level after levels order base
    have isOpen := orderly.coherent.open_of_unbound unbound notSkipped
    have layers := (orderly.cluster (fun _ _ => trivial) trivial isOpen clustered).layers
    rw [levels] at layers
    exact layers.attributeLevels.sameAttribution steady [] order
  · intro files pool schedule
    refine map_eq_of_rel ((Lockstep.refl orderly pool schedule).index steady files) ?_
    rintro ⟨report, done⟩ ⟨_, otherDone⟩ ⟨rfl, lockstep⟩
    simp only [Session.exported, lockstep.components]

/-- The lowest level of the small distribution is two packages, about one of which the engine runs
out of time. -/
theorem sample_schedules_agree :
    (∃ clustering grown level rest,
      Session.initial.cluster Settings.sample (.sample "b.sty") = some (clustering, grown) ∧
      clustering.byLevel = level :: rest ∧
      level.map (List.map Dependency.name) = [["c.sty"], ["d.sty"]] ∧
      let mixed := (grown.marked clustering).attributeLevel Settings.sample
        [0, 1, 0, 1, 1, 0, 0, 1, 0] level
      mixed.registry.state "c.sty" = .registered ∧ mixed.registry.state "d.sty" = .skipped ∧
      ((grown.marked clustering).attributeLevel Settings.sample [] level).SameAttribution mixed) ∧
    ∃ report done, Session.initial.index
        (Settings.sample.under (.parallel 2) (fun _ => [1, 0, 1, 0, 0, 1]))
        (["b.sty", "c.sty"].map File.sample) = some (report, done) ∧
      report = ⟨2, 3, 5, ["d.sty"]⟩ ∧
      done.exported Settings.sample = [.knot, .host, .below, .ofKernel Settings.sample.kernel] := by
  obtain ⟨levelwise, indexwise⟩ :=
    schedules_agree Settings.steady_sample (Session.Reachable.initial Settings.sample)
  constructor
  · have known : ∃ found ∈ Session.initial.cluster Settings.sample (.sample "b.sty"),
        ∃ level ∈ found.1.byLevel.head?,
          level.map (List.map Dependency.name) = [["c.sty"], ["d.sty"]] ∧
          let mixed := (found.2.marked found.1).attributeLevel Settings.sample
            [0, 1, 0, 1, 1, 0, 0, 1, 0] level
          mixed.registry.state "c.sty" = .registered ∧ mixed.registry.state "d.sty" = .skipped := by
      decide +kernel
    obtain ⟨⟨clustering, grown⟩, clustered, level, isFirst, names, registered, skipped⟩ := known
    obtain ⟨rest, levels⟩ := List.head?_eq_some_iff.mp isFirst
    exact ⟨clustering, grown, level, rest, clustered, levels, names, registered, skipped,
      levelwise _ rfl rfl clustering grown clustered [] level rest levels _⟩
  · obtain ⟨⟨report, done⟩, ran, reported, components, _⟩ := index_sample
    have agree := indexwise (["b.sty", "c.sty"].map File.sample) (.parallel 2)
      (fun _ => [1, 0, 1, 0, 0, 1])
    rw [Option.mem_def.mp ran, Option.map_some, Option.map_eq_some_iff] at agree
    obtain ⟨⟨otherReport, otherDone⟩, otherRan, same⟩ := agree
    rw [Prod.mk.injEq] at same
    refine ⟨otherReport, otherDone, otherRan, same.1.trans reported, same.2.trans ?_⟩
    exact congrArg (· ++ [Component.ofKernel Settings.sample.kernel]) components

end TexAtlas
