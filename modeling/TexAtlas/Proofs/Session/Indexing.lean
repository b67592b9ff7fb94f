/-
Indexing a list of files: once the baseline is settled, nothing of it is worked on again, so
an index run from nothing is the baseline followed by the closure of one file after the other.
Every wave of a discovery makes nodes of files that were none, so where what can be reached is
among the files that some session has settled, no discovery needs more waves than that session
has probed files.
-/

import TexAtlas.Proofs.Session.Agreement

namespace TexAtlas

namespace Session

variable {settings : Settings} {session : Session} {file : File}

/-! ### What is settled is left alone -/

theorem resolveClosure_of_settled (sound : Sound settings session)
    (settled : session.registry.isSettled file.name = true) :
    session.resolveClosure settings file =
      some (session.registry.get? file.name, session) := by
  obtain ⟨members, _, inside, settles⟩ := sound.coherent.grouped file.name settled
  unfold resolveClosure
  rcases settles with ⟨bound, holds⟩ | drops
  · rw [(holds.held file.name inside).1]
  · obtain ⟨unbound, skipped⟩ := drops file.name inside
    rw [unbound]
    exact if_pos ((Registry.isSkipped_iff _ _).mpr skipped)

theorem resolveBaseline_of_settled (baseline : BaselineSettled settings session) :
    session.resolveBaseline settings = some session := by
  have each : ∀ name ∈ settings.baseline.toList,
      session.resolveBaselineFile settings name = some session := by
    intro name inBaseline
    unfold resolveBaselineFile
    split
    · rfl
    · rename_i notSettled
      split
      · rfl
      · rename_i known found
        exact absurd (baseline name ⟨inBaseline, (FileIndex.contains_iff _ _).mpr ⟨known, found⟩⟩)
          notSettled
  unfold resolveBaseline
  revert each
  generalize settings.baseline.toList = names
  intro each
  induction names with
  | nil => rfl
  | cons name names ih =>
      rw [List.foldlM_cons, each name (List.mem_cons_self ..)]
      exact ih (fun other later => each other (List.mem_cons_of_mem name later))

/-- Once the baseline is settled, to index a file is to resolve its closure. -/
theorem indexFile_of_baselineSettled (sound : Sound settings session)
    (baseline : BaselineSettled settings session) (file : File) :
    session.indexFile settings file =
      (session.resolveClosure settings file).map Prod.snd := by
  unfold indexFile
  split
  · rename_i known
    have settled : session.registry.isSettled file.name = true := by
      rcases Bool.or_eq_true_iff.mp known with isBound | settled
      · obtain ⟨bound, held⟩ := (Registry.contains_iff _ _).mp isBound
        exact (sound.coherent.holds_of_bound held).1
      · exact settled
    rw [resolveClosure_of_settled sound settled]
    rfl
  · rw [resolve, resolveBaseline_of_settled baseline]
    rfl

/-- The first file of an index run from nothing brings the baseline with it. -/
theorem indexFile_initial (settings : Settings) (file : File) :
    initial.indexFile settings file =
      (initial.resolveBaseline settings).bind (fun ready => ready.indexFile settings file) := by
  have begun : initial.indexFile settings file =
      (initial.resolveBaseline settings).bind
        (fun ready => (ready.resolveClosure settings file).map Prod.snd) :=
    Option.map_bind
  rw [begun]
  refine Option.bind_congr ?_
  intro ready based
  obtain ⟨advance, baseline⟩ := resolveBaseline_advance (Sound.initial settings) based
  exact (indexFile_of_baselineSettled advance.sound baseline file).symm

/-- An index run from nothing that has something to do is the baseline followed by the files. -/
theorem index_initial {files : List File} (some_target : targetsAmong files ≠ []) :
    (initial.index settings files).map Prod.snd =
      (initial.resolveBaseline settings).bind
        (fun ready => (targetsAmong files).foldlM (indexFile settings) ready) := by
  unfold index
  rw [Option.map_map]
  cases targets : targetsAmong files with
  | nil => exact absurd targets some_target
  | cons first rest =>
      rw [List.foldlM_cons, indexFile_initial]
      have keeps : Prod.snd ∘ (fun done : Session =>
          (done.report (first :: rest).length, done)) = id := rfl
      rw [keeps, Option.map_id]
      exact Option.bind_assoc _ _ _

end Session

/-! ### Discoveries come to an end -/

namespace Session

variable {settings : Settings} {admitted : File → Prop}

theorem size_lt_of_fresh {nodes : NameMap Dependency} {names : List String} {name : String}
    (contained : ∀ other, nodes.contains other = true → other ∈ names) (listed : name ∈ names)
    (fresh : nodes.contains name = false) : nodes.size < names.length := by
  have distinct : (name :: nodes.keys).Nodup := by
    refine List.nodup_cons.mpr ⟨?_, nodes.distinct⟩
    rw [NameMap.mem_keys_iff, fresh]
    exact Bool.noConfusion
  have subset : name :: nodes.keys ⊆ names := by
    intro other member
    rcases List.mem_cons.mp member with rfl | isKey
    · exact listed
    · exact contained other ((NameMap.mem_keys_iff nodes other).mp isKey)
  have atMost := distinct.length_le_of_subset subset
  rwa [List.length_cons, NameMap.keys, List.length_map] at atMost

theorem size_lt_addNodes {waiting : List File} {nodes : NameMap Dependency} {session : Session}
    {file : File} (probed : Memo.ProbedFrom settings admitted session.memo)
    (areAdmitted : ∀ file ∈ waiting, admitted file)
    (waits : file ∈ waiting) (fresh : ∀ file ∈ waiting, nodes.contains file.name = false) :
    nodes.size < (addNodes nodes
      ((session.probeWave settings waiting).remembered waiting)).size := by
  obtain ⟨_, sound, present⟩ := probeWave_sound probed areAdmitted
  have inWave := name_mem_remembered sound waits (present file waits)
  have more : nodes.size < (addNodes nodes
      ((session.probeWave settings waiting).remembered waiting)).keys.length :=
    size_lt_of_fresh
      (fun name contained => (NameMap.mem_keys_iff _ _).mpr
        ((contains_addNodes _ _ _).mpr (Or.inl contained)))
      ((NameMap.mem_keys_iff _ _).mpr ((contains_addNodes _ _ _).mpr (Or.inr inWave)))
      (fresh file waits)
  rwa [NameMap.keys, List.length_map] at more

/-- A discovery that stays in a list of names ends when it has as many waves as there are
names left. -/
theorem Exploring.completes {registry : Registry} {entry : String} {waves : Nat}
    {inside : Memo → String → Prop} {waiting : List File} {nodes : NameMap Dependency}
    {session : Session} {names : List String} (spreads : Spreads registry inside)
    (listed : ∀ memo : Memo, memo.ProbedFrom settings admitted → ∀ name, inside memo name →
      name ∈ names)
    (exploring : Exploring settings admitted registry entry inside nodes waiting session)
    (fresh : ∀ file ∈ waiting, nodes.contains file.name = false)
    (enough : names.length ≤ nodes.size + waves) :
    ∃ result final, Session.grow settings waves waiting nodes session = some (result, final) := by
  induction waves generalizing waiting nodes session with
  | zero =>
      cases waiting with
      | nil => exact ⟨nodes, session, rfl⟩
      | cons file files =>
          have within := listed session.memo exploring.probed
          have first : file ∈ file :: files := List.mem_cons_self ..
          have more := size_lt_of_fresh
            (fun name contained => within name (exploring.nodesInside name contained))
            (within file.name (exploring.waitingInside file first)) (fresh file first)
          omega
  | succ waves ih =>
      cases waiting with
      | nil => exact ⟨nodes, session, rfl⟩
      | cons file files =>
          obtain ⟨_, next⟩ := exploring.wave spreads
          refine ih next (fun _ member => (mem_nextWave member).1) ?_
          have more := size_lt_addNodes exploring.probed exploring.waitingAdmitted
            (List.mem_cons_self ..) fresh
          omega

/-- A discovery ends when it has as many waves as files can be reached. -/
theorem Growing.completes {registry : Registry} {entry : String} {waves : Nat}
    {waiting : List File} {nodes : NameMap Dependency} {session : Session}
    {inside : String → Prop} {names : List String}
    (closed : ∀ memo : Memo, memo.ProbedFrom settings admitted → ∀ source target,
      inside source → memo.Refers source target → inside target)
    (start : inside entry) (listed : ∀ name, inside name → name ∈ names)
    (growing : Growing settings admitted registry entry nodes waiting session)
    (fresh : ∀ file ∈ waiting, nodes.contains file.name = false)
    (enough : names.length ≤ nodes.size + waves) :
    ∃ result final, Session.grow settings waves waiting nodes session = some (result, final) := by
  refine (growing_iff_exploring.mp growing).completes (spreads_reached _ _) ?_ fresh enough
  rintro memo probed name ⟨_, reached⟩
  exact listed name (reached.stays (closed memo probed) start)

variable {left session : Session} {file : File}

/-- Where another session has settled a file, its closure can be resolved within as many waves
as that session has probed files. -/
theorem resolveClosure_completes (steady : settings.Steady) (leftSound : Sound settings left)
    (enough : left.probed ≤ settings.waveLimit) (sound : Sound settings session)
    (indexed : file ∈ settings.index.files)
    (settled : left.registry.isSettled file.name = true) :
    ∃ found after, session.resolveClosure settings file = some (found, after) := by
  unfold resolveClosure
  split
  · exact ⟨_, _, rfl⟩
  · rename_i unbound
    split
    · exact ⟨_, _, rfl⟩
    · rename_i notSkipped
      have isOpen := sound.coherent.open_of_unbound unbound (Bool.not_eq_true _ ▸ notSkipped)
      have closed : ∀ memo : Memo, memo.Probed settings → ∀ source target,
          left.registry.isSettled source = true → memo.Refers source target →
            left.registry.isSettled target = true := by
        intro memo probed source target sourceSettled refers
        exact leftSound.coherent.closed source target sourceSettled
          (steady.concurs.refers_shared probed leftSound.probed trivial
            (leftSound.coherent.probed_of_settled sourceSettled) refers)
      have listed : ∀ name, left.registry.isSettled name = true → name ∈ left.memo.keys :=
        fun name nameSettled => (NameMap.mem_keys_iff _ name).mpr
          (leftSound.coherent.probed_of_settled nameSettled)
      have begun := Growing.start sound.probed (fun _ isResolved => isResolved)
        (FileIndex.resolve_of_mem indexed).symm isOpen
      have enoughWaves : left.memo.keys.length ≤
          (NameMap.empty : NameMap Dependency).size + settings.waveLimit := by
        rw [NameMap.keys, List.length_map]
        exact Nat.le_trans enough (Nat.le_add_left _ _)
      obtain ⟨nodes, grown, discovered⟩ :=
        begun.completes closed settled listed (fun _ _ => rfl) enoughWaves
      unfold cluster discoverClosure
      rw [discovered]
      exact ⟨_, _, rfl⟩

theorem indexFiles_completes (steady : settings.Steady) (leftSound : Sound settings left)
    (enough : left.probed ≤ settings.waveLimit) {files : List File}
    (sound : Sound settings session) (baseline : BaselineSettled settings session)
    (indexed : ∀ file ∈ files, file ∈ settings.index.files)
    (settled : ∀ file ∈ files, left.registry.isSettled file.name = true) :
    ∃ after, files.foldlM (indexFile settings) session = some after := by
  induction files generalizing session with
  | nil => exact ⟨session, rfl⟩
  | cons file files ih =>
      have first : file ∈ file :: files := List.mem_cons_self ..
      obtain ⟨found, next, resolves⟩ := resolveClosure_completes steady leftSound enough sound
        (indexed file first) (settled file first)
      have stepped : session.indexFile settings file = some next := by
        rw [indexFile_of_baselineSettled sound baseline, resolves]
        rfl
      obtain ⟨advance, _⟩ := indexFile_advance sound (indexed file first) stepped
      rw [List.foldlM_cons, stepped]
      exact ih advance.sound (baseline.later advance.later)
        (fun other later => indexed other (List.mem_cons_of_mem file later))
        (fun other later => settled other (List.mem_cons_of_mem file later))

end Session

end TexAtlas
