/-
The order and the extent of an index run do not matter. Any two runs from nothing go on from
the same settled baseline, so they tell the same about every file that both have settled; and
runs over the same files settle the same files, so they export the same components.
-/

import TexAtlas.Proofs.Session.Indexing
import TexAtlas.Proofs.Session.Runs

namespace TexAtlas

variable {settings : Settings} {ready left right after : Session} {files : List File}

/-- What an index run from nothing leaves behind when it has something to do. -/
structure Indexed (settings : Settings) (files : List File) (ready after : Session) : Prop where
  based : Session.initial.resolveBaseline settings = some ready
  readySound : Sound settings ready
  baseline : BaselineSettled settings ready
  goesOn : Continues settings ready after
  origin : ∀ name, after.registry.isSettled name = true →
    ∃ root, IsIndexRoot settings (Session.targetsAmong files) root ∧
      Memo.Reaches after.memo root name
  rootsSettled : ∀ root, IsIndexRoot settings (Session.targetsAmong files) root →
    after.registry.isSettled root = true

theorem Indexed.of_index (indexed : ∀ file ∈ files, file ∈ settings.index.files)
    (someTarget : Session.targetsAmong files ≠ [])
    (ran : (Session.initial.index settings files).map Prod.snd = some after) :
    ∃ ready, Indexed settings files ready after := by
  have targetsIndexed : ∀ file ∈ Session.targetsAmong files, file ∈ settings.index.files :=
    fun file member => indexed file (List.mem_filter.mp member).1
  have folded := ran
  unfold Session.index at folded
  rw [Option.map_map, Option.map_eq_some_iff] at folded
  obtain ⟨done, fromNothing, same⟩ := folded
  cases same
  obtain ⟨advance, allSettled⟩ :=
    indexFiles_advance (Sound.initial settings) targetsIndexed fromNothing
  rw [Session.index_initial someTarget, Option.bind_eq_some_iff] at ran
  obtain ⟨ready, based, rest⟩ := ran
  obtain ⟨first, baseline⟩ := resolveBaseline_advance (Sound.initial settings) based
  have second := (indexFiles_advance first.sound targetsIndexed rest).1
  refine ⟨ready, based, first.sound, baseline,
    ⟨advance.sound, advance.attributed (attributed_initial settings), second.later⟩, ?_, ?_⟩
  · intro name settled
    rcases advance.origin name settled with impossible | found
    · cases impossible
    · exact found
  · rintro root (isHost | isTarget)
    · exact second.later.isSettled (baseline root isHost)
    · obtain ⟨file, member, rfl⟩ := List.mem_map.mp isTarget
      exact allSettled file member

theorem index_of_no_target (noTarget : Session.targetsAmong files = []) :
    (Session.initial.index settings files).map Prod.snd = some Session.initial := by
  unfold Session.index
  rw [noTarget]
  rfl

/-- Index runs under two engines that settle the baseline in the same way are alike on every
settled file about which the engines concur. -/
theorem alike_of_concurs {engine : Nat → Engine} {inside : String → Prop} {others : List File}
    (concurs : settings.Concurs engine inside)
    (sameBaseline : Session.initial.resolveBaseline (settings.withEngine engine) =
      Session.initial.resolveBaseline settings)
    (indexed : ∀ file ∈ files, file ∈ settings.index.files)
    (othersIndexed : ∀ file ∈ others, file ∈ settings.index.files)
    (leftRan : (Session.initial.index settings files).map Prod.snd = some left)
    (rightRan : (Session.initial.index (settings.withEngine engine) others).map Prod.snd =
      some right) {name : String} (isInside : inside name)
    (inLeft : left.registry.isSettled name = true)
    (inRight : right.registry.isSettled name = true) :
    left.registry.AlikeOn right.registry name := by
  have someTarget : ∀ {settings : Settings} {files : List File} {after : Session},
      (Session.initial.index settings files).map Prod.snd = some after →
        after.registry.isSettled name = true → Session.targetsAmong files ≠ [] := by
    intro settings files after ran settled noTarget
    rw [index_of_no_target noTarget] at ran
    cases ran
    cases settled
  obtain ⟨ready, first⟩ := Indexed.of_index indexed (someTarget leftRan inLeft) leftRan
  have otherIndexed : ∃ otherReady,
      Indexed (settings.withEngine engine) others otherReady right :=
    Indexed.of_index othersIndexed (someTarget rightRan inRight) rightRan
  obtain ⟨otherReady, second⟩ := otherIndexed
  have same := first.based.symm.trans (sameBaseline.symm.trans second.based)
  cases same
  exact first.goesOn.alike concurs second.goesOn first.readySound.coherent first.baseline name
    isInside inLeft inRight

theorem alike_of_indexed {others : List File} (steady : settings.Steady)
    (indexed : ∀ file ∈ files, file ∈ settings.index.files)
    (othersIndexed : ∀ file ∈ others, file ∈ settings.index.files)
    (leftRan : (Session.initial.index settings files).map Prod.snd = some left)
    (rightRan : (Session.initial.index settings others).map Prod.snd = some right)
    {name : String} (inLeft : left.registry.isSettled name = true)
    (inRight : right.registry.isSettled name = true) :
    left.registry.AlikeOn right.registry name :=
  alike_of_concurs steady.concurs rfl indexed othersIndexed leftRan rightRan trivial inLeft inRight

theorem Indexed.settled_of_same_roots {others : List File} {otherReady : Session}
    (steady : settings.Steady) (first : Indexed settings files ready left)
    (second : Indexed settings others otherReady right)
    (roots : ∀ root, IsIndexRoot settings (Session.targetsAmong files) root →
      IsIndexRoot settings (Session.targetsAmong others) root) {name : String}
    (settled : left.registry.isSettled name = true) : right.registry.isSettled name = true := by
  obtain ⟨root, isRoot, reaches⟩ := first.origin name settled
  exact (first.goesOn.sound.reaches_shared steady.concurs second.goesOn.sound trivial reaches
    (second.rootsSettled root (roots root isRoot))).2

/-- Sessions between operations that have settled the same files, and are alike on these, are
alike on all files. -/
theorem Sound.alike_everywhere (leftSound : Sound settings left) (rightSound : Sound settings right)
    (same : ∀ name, left.registry.isSettled name = right.registry.isSettled name)
    (alike : ∀ name, left.registry.isSettled name = true →
      left.registry.AlikeOn right.registry name) (name : String) :
    left.registry.AlikeOn right.registry name := by
  cases settled : left.registry.isSettled name with
  | true => exact alike name settled
  | false =>
      obtain ⟨unbound, unresolved⟩ :=
        leftSound.coherent.untouched_of_not_settled List.not_mem_nil settled
      obtain ⟨otherUnbound, otherUnresolved⟩ :=
        rightSound.coherent.untouched_of_not_settled List.not_mem_nil
          ((same name).symm.trans settled)
      exact ⟨otherUnresolved.trans unresolved.symm, by rw [unbound, otherUnbound]⟩

theorem targetsAmong_perm {first second : List File} (permuted : first.Perm second) :
    (Session.targetsAmong first).Perm (Session.targetsAmong second) :=
  permuted.filter _

theorem IsIndexRoot.of_perm {first second : List File} (permuted : first.Perm second)
    {root : String} (isRoot : IsIndexRoot settings first root) :
    IsIndexRoot settings second root := by
  rcases isRoot with isHost | isTarget
  · exact Or.inl isHost
  · exact Or.inr ((permuted.map File.name).mem_iff.mp isTarget)

/-- Index runs over the same files in another order export the same components. -/
theorem components_of_perm {first second : List File} (steady : settings.Steady)
    (indexed : ∀ file ∈ first, file ∈ settings.index.files) (permuted : first.Perm second)
    (leftRan : (Session.initial.index settings first).map Prod.snd = some left)
    (rightRan : (Session.initial.index settings second).map Prod.snd = some right) :
    right.registry.components = left.registry.components := by
  have secondIndexed : ∀ file ∈ second, file ∈ settings.index.files := fun file member =>
    indexed file (permuted.mem_iff.mpr member)
  have targets := targetsAmong_perm permuted
  by_cases noTarget : Session.targetsAmong first = []
  · have noOther : Session.targetsAmong second = [] := by
      rw [noTarget] at targets
      exact targets.nil_eq.symm
    rw [index_of_no_target noTarget] at leftRan
    rw [index_of_no_target noOther] at rightRan
    cases leftRan
    cases rightRan
    rfl
  · have someOther : Session.targetsAmong second ≠ [] := by
      intro none
      rw [none] at targets
      exact noTarget targets.eq_nil
    obtain ⟨ready, one⟩ := Indexed.of_index indexed noTarget leftRan
    obtain ⟨otherReady, other⟩ := Indexed.of_index secondIndexed someOther rightRan
    have same : ∀ name, left.registry.isSettled name = right.registry.isSettled name := by
      intro name
      rw [Bool.eq_iff_iff]
      exact ⟨one.settled_of_same_roots steady other (fun _ => IsIndexRoot.of_perm targets),
        other.settled_of_same_roots steady one (fun _ => IsIndexRoot.of_perm targets.symm)⟩
    refine one.goesOn.sound.coherent.components_congr other.goesOn.sound.coherent
      (one.goesOn.sound.alike_everywhere other.goesOn.sound same ?_)
    exact fun name settled => alike_of_indexed steady indexed secondIndexed leftRan rightRan
      settled ((same name).symm.trans settled)

/-- A run over the same files in another order ends, if discoveries may take as many waves as
the first run has probed files. -/
theorem index_completes_of_perm {first second : List File} (steady : settings.Steady)
    (indexed : ∀ file ∈ first, file ∈ settings.index.files) (permuted : first.Perm second)
    (leftRan : (Session.initial.index settings first).map Prod.snd = some left)
    (enough : left.probed ≤ settings.waveLimit) :
    ∃ right, (Session.initial.index settings second).map Prod.snd = some right := by
  have targets := targetsAmong_perm permuted
  by_cases noTarget : Session.targetsAmong second = []
  · exact ⟨_, index_of_no_target noTarget⟩
  · have someTarget : Session.targetsAmong first ≠ [] := by
      intro none
      rw [none] at targets
      exact noTarget targets.nil_eq.symm
    obtain ⟨ready, one⟩ := Indexed.of_index indexed someTarget leftRan
    rw [Session.index_initial noTarget, one.based]
    refine Session.indexFiles_completes steady one.goesOn.sound enough one.readySound
      one.baseline ?_ ?_
    · intro file member
      exact indexed file (permuted.mem_iff.mpr (List.mem_filter.mp member).1)
    · intro file member
      exact one.rootsSettled file.name
        (Or.inr (List.mem_map_of_mem (targets.mem_iff.mpr member)))

/-- What two sessions have both settled ended in the same way. -/
def Session.EndsAlike (left right : Session) : Prop :=
  ∀ name, left.registry.isSettled name = true → right.registry.isSettled name = true →
    right.registry.state name = left.registry.state name ∧
      (left.registry.state name = .registered →
        ∃ bound twin, left.registry.get? name = some bound ∧
          right.registry.get? name = some twin ∧ twin.component = bound.component)

theorem Sound.exists_bound_of_registered (sound : Sound settings left) {name : String}
    (registered : left.registry.state name = .registered) :
    ∃ bound, left.registry.get? name = some bound :=
  (sound.coherent.bound_iff_registered name).mpr registered

/-- Index runs from nothing end alike on whatever both of them settle, and runs over the same
files in any order export the same. -/
theorem index_order_independent {first : List File} {report : Report} (steady : settings.Steady)
    (indexed : ∀ file ∈ first, file ∈ settings.index.files)
    (leftRan : Session.initial.index settings first = some (report, left)) :
    (∀ second otherReport right, (∀ file ∈ second, file ∈ settings.index.files) →
      Session.initial.index settings second = some (otherReport, right) →
        left.EndsAlike right ∧
          (first.Perm second → right.exported settings = left.exported settings)) ∧
    ∀ second, first.Perm second → left.probed ≤ settings.waveLimit →
      ∃ otherReport right, Session.initial.index settings second = some (otherReport, right) ∧
        right.exported settings = left.exported settings := by
  have ended : ∀ {files : List File} {each : Report} {after : Session},
      Session.initial.index settings files = some (each, after) →
        (Session.initial.index settings files).map Prod.snd = some after := by
    intro files each after ran
    rw [ran]
    rfl
  have leftEnded := ended leftRan
  have exported : ∀ {second : List File} {otherReport : Report} {right : Session},
      first.Perm second → Session.initial.index settings second = some (otherReport, right) →
        right.exported settings = left.exported settings := by
    intro second otherReport right permuted rightRan
    rw [Session.exported, Session.exported,
      components_of_perm steady indexed permuted leftEnded (ended rightRan)]
  refine ⟨?_, ?_⟩
  · intro second otherReport right secondIndexed rightRan
    refine ⟨?_, fun permuted => exported permuted rightRan⟩
    intro name inLeft inRight
    have alike := alike_of_indexed steady indexed secondIndexed leftEnded (ended rightRan)
      inLeft inRight
    refine ⟨alike.state, fun registered => ?_⟩
    have leftSound : Sound settings left := (index_advance (Sound.initial settings) indexed
      leftEnded).sound
    obtain ⟨bound, held⟩ := leftSound.exists_bound_of_registered registered
    obtain ⟨twin, twinHeld, same⟩ := alike.exists_twin held
    exact ⟨bound, twin, held, twinHeld, same⟩
  · intro second permuted enough
    obtain ⟨right, rightEnded⟩ :=
      index_completes_of_perm steady indexed permuted leftEnded enough
    obtain ⟨⟨otherReport, _⟩, rightRan, same⟩ := Option.map_eq_some_iff.mp rightEnded
    cases same
    exact ⟨otherReport, _, rightRan, exported permuted rightRan⟩

/-- Whichever of the two packages comes first, everything is exported with its symbols. -/
theorem sample_index_order_independent :
    ∃ report left otherReport right,
      Session.initial.index Settings.sample (["b.sty", "c.sty"].map File.sample) =
        some (report, left) ∧ report = ⟨2, 3, 5, ["d.sty"]⟩ ∧
      Session.initial.index Settings.sample (["c.sty", "b.sty"].map File.sample) =
        some (otherReport, right) ∧
      right.exported Settings.sample = left.exported Settings.sample ∧
      left.exported Settings.sample =
        [.knot, .host, .below, .ofKernel Settings.sample.kernel] := by
  obtain ⟨⟨report, left⟩, leftRan, reported, components, _, _, _, enough⟩ := index_sample
  have indexed : ∀ file ∈ ["b.sty", "c.sty"].map File.sample,
      file ∈ Settings.sample.index.files := by
    decide +kernel
  obtain ⟨_, permuted⟩ := index_order_independent Settings.steady_sample indexed leftRan
  obtain ⟨otherReport, right, rightRan, same⟩ := permuted _ (List.Perm.swap _ _ _) enough
  exact ⟨report, left, otherReport, right, leftRan, reported, rightRan, same,
    congrArg (· ++ [Component.ofKernel Settings.sample.kernel]) components⟩

end TexAtlas
