/-
Discovery of a closure. Everything remembered about a file comes from one probe of it, so
files of the baseline are never referred to. What passes along references to open files the
waves of a discovery hand on from the entry to all nodes; so below an open entry the nodes are
kept apart from the settled files and reached from the entry. When no file needs work any more,
every reference of a node leads to a node or to a settled file.
-/

import TexAtlas.Proofs.Registry.Basic
import TexAtlas.Proofs.Session.References
import TexAtlas.Proofs.TaskPool
import TexAtlas.Session.Closure

namespace TexAtlas

namespace Settings

variable {settings : Settings}

/-- The engine and the sources stay as they are, whatever was asked before. -/
structure Steady (settings : Settings) : Prop where
  engine : ∀ asked, settings.engine asked = settings.engine 0
  read : ∀ asked, settings.read asked = settings.read 0

/-- What a probe after a number of engine calls leaves in the memo for a file. -/
def probeAt (settings : Settings) (asked : Nat) (file : File) : Dependency :=
  Session.settleProbe file ((settings.lister asked).probe file).settle

theorem Steady.lister (steady : settings.Steady) (asked : Nat) :
    settings.lister asked = settings.lister 0 := by
  rw [Settings.lister, Settings.lister, steady.engine asked]

theorem Steady.classifier (steady : settings.Steady) (asked : Nat) :
    settings.classifier asked = settings.classifier 0 := by
  rw [Settings.classifier, Settings.classifier, steady.engine asked]

theorem Steady.scanner (steady : settings.Steady) (asked : Nat) :
    settings.scanner asked = settings.scanner 0 := by
  rw [Settings.scanner, Settings.scanner, steady.read asked]

theorem Steady.probeAt (steady : settings.Steady) (asked : Nat) (file : File) :
    settings.probeAt asked file = settings.probeAt 0 file := by
  rw [Settings.probeAt, steady.lister asked]
  rfl

theorem probeAt_answered (settings : Settings) (asked : Nat) (file : File) :
    (∃ reason, settings.probeAt asked file = .degraded file reason) ∨
      ∃ found transcript,
        settings.engine asked ((settings.lister asked).call file) = .transcript transcript ∧
        (settings.lister asked).filesIn file transcript = .ok found ∧
        settings.probeAt asked file = .ofDiscovered file found := by
  unfold probeAt Probe.Lister.probe Probe.Lister.discover
  change _ ∨ ∃ found transcript,
    (settings.lister asked).engine ((settings.lister asked).call file) = .transcript transcript ∧ _
  cases (settings.lister asked).engine ((settings.lister asked).call file) with
  | fault fault => exact Or.inl ⟨_, rfl⟩
  | panicked panic => exact Or.inl ⟨_, rfl⟩
  | transcript text =>
      cases listed : (settings.lister asked).filesIn file text with
      | error error =>
          refine Or.inl ⟨error.message, ?_⟩
          simp only [listed]
          rfl
      | ok found =>
          refine Or.inr ⟨found, text, rfl, listed, ?_⟩
          simp only [listed]
          rfl

theorem probeAt_cases (settings : Settings) (asked : Nat) (file : File) :
    (∃ reason, settings.probeAt asked file = .degraded file reason) ∨
      ∃ found transcript, (settings.lister asked).filesIn file transcript = .ok found ∧
        settings.probeAt asked file = .ofDiscovered file found := by
  rcases settings.probeAt_answered asked file with degraded | ⟨found, transcript, _, listed⟩
  · exact Or.inl degraded
  · exact Or.inr ⟨found, transcript, listed⟩

@[simp] theorem probeAt_file (settings : Settings) (asked : Nat) (file : File) :
    (settings.probeAt asked file).file = file := by
  rcases settings.probeAt_cases asked file with ⟨reason, probed⟩ | ⟨found, transcript, _, probed⟩
  · rw [probed]
    rfl
  · rw [probed]
    rfl

@[simp] theorem probeAt_name (settings : Settings) (asked : Nat) (file : File) :
    (settings.probeAt asked file).name = file.name :=
  congrArg File.name (settings.probeAt_file asked file)

/-- A file is the one that the index has under its name. -/
def IsResolved (settings : Settings) (file : File) : Prop :=
  file = settings.index.resolve file.name

theorem isResolved_resolve (settings : Settings) (name : String) :
    settings.IsResolved (settings.index.resolve name) := by
  rw [IsResolved, FileIndex.resolve_name]

theorem mem_filesIn {asked : Nat} {file loaded : File} {transcript : String} {found : List File}
    (listed : (settings.lister asked).filesIn file transcript = .ok found)
    (member : loaded ∈ found) :
    ∃ names, Probe.fileTable transcript = some names ∧ loaded.name ∈ names ∧
      loaded.name ∉ settings.baseline.toList ∧ settings.IsResolved loaded := by
  unfold Probe.Lister.filesIn at listed
  split at listed
  · cases listed
  · rename_i names table
    cases listed
    obtain ⟨name, kept, rfl⟩ := List.mem_map.mp member
    obtain ⟨inTable, allowed⟩ := List.mem_filter.mp kept
    simp only [Bool.and_eq_true, Bool.not_eq_true', Settings.lister] at allowed
    have named : ((settings.lister asked).index.resolve name).name = name :=
      settings.index.resolve_name name
    refine ⟨names, table, ?_, ?_, settings.isResolved_resolve name⟩
    · rwa [named]
    · rw [named]
      intro inBaseline
      rw [(settings.baseline.contains_iff name).mpr inBaseline] at allowed
      exact Bool.noConfusion allowed.2

theorem mem_probeAt_loaded {asked : Nat} {file loaded : File}
    (member : loaded ∈ (settings.probeAt asked file).loaded) :
    loaded.name ∉ settings.baseline.toList ∧ settings.IsResolved loaded := by
  rcases settings.probeAt_cases asked file with
    ⟨reason, probed⟩ | ⟨found, transcript, listed, probed⟩
  · rw [probed] at member
    cases member
  · rw [probed] at member
    obtain ⟨_, _, _, allowed⟩ := mem_filesIn listed (List.mem_filter.mp member).1
    exact allowed

end Settings

namespace Memo

variable {settings : Settings} {memo : Memo}

/-- Everything remembered comes from a probe of an admitted file of its name. -/
def ProbedFrom (settings : Settings) (admitted : File → Prop) (memo : Memo) : Prop :=
  ∀ name dependency, memo.get? name = some dependency →
    ∃ asked file, admitted file ∧ file.name = name ∧ dependency = settings.probeAt asked file

/-- Everything remembered comes from a probe of the file that the index has under the name. -/
abbrev Probed (settings : Settings) (memo : Memo) : Prop :=
  memo.ProbedFrom settings settings.IsResolved

section

variable {admitted : File → Prop}

theorem ProbedFrom.named (probed : memo.ProbedFrom settings admitted) : memo.Named := by
  intro name dependency found
  obtain ⟨asked, file, _, rfl, rfl⟩ := probed name dependency found
  exact settings.probeAt_name asked file

theorem ProbedFrom.references (probed : memo.ProbedFrom settings admitted) {name : String}
    {dependency : Dependency} (found : memo.get? name = some dependency) {file : File}
    (referenced : file ∈ dependency.references) :
    file.name ∉ settings.baseline.toList ∧ settings.IsResolved file := by
  obtain ⟨asked, source, _, _, rfl⟩ := probed name dependency found
  exact Settings.mem_probeAt_loaded (Dependency.mem_references referenced).1

theorem ProbedFrom.target_not_baseline (probed : memo.ProbedFrom settings admitted)
    {source target : String} (refers : memo.Refers source target) :
    target ∉ settings.baseline.toList := by
  obtain ⟨dependency, found, member⟩ := refers
  obtain ⟨file, referenced, rfl⟩ := (Dependency.mem_referenceNames _ _).mp member
  exact (probed.references found referenced).1

end

/-- What is remembered about a name was found out about the file of the index. -/
theorem ProbedFrom.dependency (probed : memo.Probed settings) {name : String}
    {dependency : Dependency} (found : memo.get? name = some dependency) :
    ∃ asked, dependency = settings.probeAt asked (settings.index.resolve name) := by
  obtain ⟨asked, file, isResolved, rfl, rfl⟩ := probed name dependency found
  exact ⟨asked, congrArg (settings.probeAt asked) isResolved⟩

theorem ProbedFrom.file (probed : memo.Probed settings) {name : String} {dependency : Dependency}
    (found : memo.get? name = some dependency) :
    dependency.file = settings.index.resolve name := by
  obtain ⟨asked, rfl⟩ := probed.dependency found
  exact settings.probeAt_file asked _

theorem ProbedFrom.includes (probed : memo.Probed settings) {name : String}
    {dependency : Dependency} (found : memo.get? name = some dependency) {file : File}
    (included : file ∈ dependency.includes) : settings.IsResolved file := by
  obtain ⟨asked, rfl⟩ := probed.dependency found
  rcases List.mem_cons.mp included with rfl | loaded
  · rw [Settings.probeAt_file]
    exact settings.isResolved_resolve name
  · exact (Settings.mem_probeAt_loaded loaded).2

end Memo

namespace Session

variable {settings : Settings} {admitted : File → Prop}

/-! ### Probing a wave -/

theorem get?_remember_within (memo : Memo) (dependency : Dependency) :
    memo.Within (remember memo dependency) := by
  intro name known found
  rw [get?_remember, found]
  split
  · rfl
  · rfl

theorem contains_remember (memo : Memo) (dependency : Dependency) :
    (remember memo dependency : Memo).contains dependency.name = true := by
  rw [NameMap.contains, get?_remember, if_pos rfl]
  rfl

theorem probed_remember {memo : Memo} (probed : memo.ProbedFrom settings admitted) (asked : Nat)
    {file : File} (isAdmitted : admitted file) :
    Memo.ProbedFrom settings admitted (remember memo (settings.probeAt asked file)) := by
  intro name dependency found
  unfold remember at found
  split at found
  · exact probed name dependency found
  · rw [NameMap.get?_insert] at found
    split at found
    · rename_i same
      rw [Settings.probeAt_name] at same
      exact ⟨asked, file, isAdmitted, same, (Option.some.inj found).symm⟩
    · exact probed name dependency found

theorem foldl_remember (found : List Dependency) (memo : Memo) :
    memo.Within (found.foldl remember memo) ∧
      ∀ dependency ∈ found, (found.foldl remember memo : Memo).contains dependency.name = true := by
  induction found generalizing memo with
  | nil => exact ⟨Memo.Within.refl memo, fun _ impossible => by cases impossible⟩
  | cons head tail ih =>
      obtain ⟨within, present⟩ := ih (remember memo head)
      refine ⟨(get?_remember_within memo head).trans within, ?_⟩
      intro dependency member
      rcases List.mem_cons.mp member with rfl | later
      · exact within.contains (contains_remember memo dependency)
      · exact present dependency later

theorem probed_foldl_remember {found : List Dependency} {memo : Memo}
    (probed : memo.ProbedFrom settings admitted)
    (sound : ∀ dependency ∈ found, ∃ asked file, admitted file ∧
      dependency = settings.probeAt asked file) :
    Memo.ProbedFrom settings admitted (found.foldl remember memo) := by
  induction found generalizing memo with
  | nil => exact probed
  | cons head tail ih =>
      obtain ⟨asked, file, isAdmitted, rfl⟩ := sound head (List.mem_cons_self ..)
      exact ih (probed_remember probed asked isAdmitted) (fun dependency member =>
        sound dependency (List.mem_cons_of_mem _ member))

theorem found_probeWave (settings : Settings) (asked : Nat) (files : List File) :
    (files.zip (settings.pool.run (files.zipIdx.map (fun (file, earlier) =>
        (settings.lister (asked + earlier)).probe file)))).map
          (fun (file, result) => settleProbe file result) =
      files.zipIdx.map (fun (file, earlier) => settings.probeAt (asked + earlier) file) := by
  rw [TaskPool.run_eq_map_settle, List.map_map, List.map_zip_eq_zipWith]
  refine List.ext_getElem? ?_
  intro position
  rw [List.getElem?_zipWith, List.getElem?_map, List.getElem?_map, List.getElem?_zipIdx]
  cases files[position]? with
  | none => rfl
  | some file =>
      simp only [Option.map_some, Nat.zero_add]
      rfl

theorem memo_probeWave (settings : Settings) (files : List File) (session : Session) :
    (session.probeWave settings files).memo =
      ((session.pendingFiles files).zipIdx.map (fun (file, earlier) =>
        settings.probeAt (session.asked + earlier) file)).foldl remember session.memo := by
  rw [← found_probeWave]
  rfl

/-- With a steady engine it does not matter how often it was asked before. -/
theorem memo_probeWave_of_steady (steady : settings.Steady) (files : List File)
    (session : Session) :
    (session.probeWave settings files).memo =
      ((session.pendingFiles files).map (settings.probeAt 0)).foldl remember session.memo := by
  have anyTime : ∀ entry ∈ (session.pendingFiles files).zipIdx,
      settings.probeAt (session.asked + entry.2) entry.1 = settings.probeAt 0 entry.1 :=
    fun entry _ => steady.probeAt _ entry.1
  have found : (session.pendingFiles files).map (settings.probeAt 0) =
      (session.pendingFiles files).zipIdx.map (fun entry => settings.probeAt 0 entry.1) := by
    have firsts : (session.pendingFiles files).zipIdx.map Prod.fst = session.pendingFiles files :=
      List.zipIdx_map_fst 0 _
    exact (congrArg (List.map (settings.probeAt 0)) firsts.symm).trans List.map_map
  rw [memo_probeWave, found]
  exact congrArg (List.foldl remember session.memo) (List.map_congr_left anyTime)

@[simp] theorem registry_probeWave (settings : Settings) (files : List File)
    (session : Session) : (session.probeWave settings files).registry = session.registry := rfl

theorem probeWave_sound {session : Session}
    (probed : Memo.ProbedFrom settings admitted session.memo) {files : List File}
    (areAdmitted : ∀ file ∈ files, admitted file) :
    Memo.Within session.memo (session.probeWave settings files).memo ∧
      Memo.ProbedFrom settings admitted (session.probeWave settings files).memo ∧
      ∀ file ∈ files, (session.probeWave settings files).memo.contains file.name = true := by
  rw [memo_probeWave]
  obtain ⟨within, present⟩ := foldl_remember
    ((session.pendingFiles files).zipIdx.map (fun (file, earlier) =>
      settings.probeAt (session.asked + earlier) file)) session.memo
  refine ⟨within, probed_foldl_remember probed ?_, ?_⟩
  · intro dependency member
    obtain ⟨⟨file, earlier⟩, inPending, rfl⟩ := List.mem_map.mp member
    have inFiles := (List.mem_filter.mp (List.fst_mem_of_mem_zipIdx inPending)).1
    exact ⟨_, file, areAdmitted file inFiles, rfl⟩
  · intro file member
    cases known : session.memo.contains file.name with
    | true => exact within.contains known
    | false =>
        have pending : file ∈ session.pendingFiles files :=
          List.mem_filter.mpr ⟨member, by rw [known]; rfl⟩
        obtain ⟨position, held⟩ := List.mem_iff_getElem?.mp pending
        have inList : (file, position) ∈ (session.pendingFiles files).zipIdx :=
          List.mem_zipIdx_iff_getElem?.mpr held
        have found := present _ (List.mem_map_of_mem inList)
        rwa [Settings.probeAt_name] at found

/-! ### Growing the nodes -/

theorem mem_remembered (session : Session) (files : List File) (dependency : Dependency) :
    dependency ∈ session.remembered files ↔
      ∃ file ∈ files, session.memo.get? file.name = some dependency :=
  List.mem_filterMap

theorem get?_addNodes {nodes : NameMap Dependency} {wave : List Dependency} {name : String}
    {dependency : Dependency} (found : (addNodes nodes wave).get? name = some dependency) :
    nodes.get? name = some dependency ∨ dependency ∈ wave ∧ dependency.name = name := by
  unfold addNodes at found
  induction wave generalizing nodes with
  | nil => exact Or.inl found
  | cons head tail ih =>
      rcases ih found with old | ⟨later, named⟩
      · rw [NameMap.get?_insert] at old
        split at old
        · rename_i same
          cases old
          exact Or.inr ⟨List.mem_cons_self .., same⟩
        · exact Or.inl old
      · exact Or.inr ⟨List.mem_cons_of_mem head later, named⟩

theorem contains_addNodes (nodes : NameMap Dependency) (wave : List Dependency) (name : String) :
    (addNodes nodes wave).contains name = true ↔
      nodes.contains name = true ∨ name ∈ wave.map Dependency.name := by
  unfold addNodes
  induction wave generalizing nodes with
  | nil => simp
  | cons head tail ih =>
      rw [List.foldl_cons, ih, NameMap.contains_insert, List.map_cons, List.mem_cons]
      constructor
      · rintro ((same | old) | later)
        · exact Or.inr (Or.inl same.symm)
        · exact Or.inl old
        · exact Or.inr (Or.inr later)
      · rintro (old | same | later)
        · exact Or.inl (Or.inr old)
        · exact Or.inl (Or.inl same.symm)
        · exact Or.inr later

theorem needsWork_iff (nodes : NameMap Dependency) (registry : Registry) (file : File) :
    needsWork nodes registry file = true ↔
      nodes.contains file.name = false ∧ registry.IsOpen file.name := by
  unfold needsWork Registry.IsOpen
  rw [Bool.and_eq_true, Bool.and_eq_true, Bool.not_eq_true', Bool.not_eq_true', Bool.not_eq_true',
    Registry.contains_eq_false_iff, and_assoc]

/-- What a discovery keeps while it grows: the nodes are open files reached from the entry,
and a reference of a node that leads to an open file leads to a node or to a file that
waits. -/
structure Growing (settings : Settings) (admitted : File → Prop) (registry : Registry)
    (entry : String) (nodes : NameMap Dependency) (waiting : List File) (session : Session) :
    Prop where
  admits : ∀ file, settings.IsResolved file → admitted file
  registryIs : session.registry = registry
  probed : Memo.ProbedFrom settings admitted session.memo
  remembered : ∀ name dependency, nodes.get? name = some dependency →
    session.memo.get? name = some dependency
  nodesOpen : ∀ name, nodes.contains name = true → registry.IsOpen name
  nodesReached : ∀ name, nodes.contains name = true → Memo.Reaches session.memo entry name
  closed : ∀ source target, nodes.contains source = true →
    Memo.Refers session.memo source target → registry.IsOpen target →
      nodes.contains target = true ∨ target ∈ waiting.map File.name
  waitingAdmitted : ∀ file ∈ waiting, admitted file
  waitingOpen : ∀ file ∈ waiting, registry.IsOpen file.name
  waitingReached : ∀ file ∈ waiting, Memo.Reaches session.memo entry file.name
  entryHeld : nodes.contains entry = true ∨ entry ∈ waiting.map File.name

theorem mem_remembered_named {session : Session}
    (probed : Memo.ProbedFrom settings admitted session.memo) {files : List File}
    {dependency : Dependency}
    (member : dependency ∈ session.remembered files) :
    session.memo.get? dependency.name = some dependency ∧
      ∃ file ∈ files, file.name = dependency.name := by
  obtain ⟨file, inFiles, found⟩ := (mem_remembered session files dependency).mp member
  have named := probed.named file.name dependency found
  exact ⟨named ▸ found, file, inFiles, named.symm⟩

theorem name_mem_remembered {session : Session}
    (probed : Memo.ProbedFrom settings admitted session.memo) {files : List File} {file : File}
    (inFiles : file ∈ files)
    (known : session.memo.contains file.name = true) :
    file.name ∈ (session.remembered files).map Dependency.name := by
  obtain ⟨dependency, found⟩ := (NameMap.contains_iff _ _).mp known
  refine List.mem_map.mpr ⟨dependency, ?_, probed.named file.name dependency found⟩
  exact (mem_remembered session files dependency).mpr ⟨file, inFiles, found⟩

theorem mem_nextWave {nodes : NameMap Dependency} {registry : Registry}
    {wave : List Dependency} {file : File} (member : file ∈ nextWave nodes registry wave) :
    nodes.contains file.name = false ∧ registry.IsOpen file.name ∧
      ∃ dependency ∈ wave, file ∈ dependency.references := by
  obtain ⟨referenced, needed⟩ := List.mem_filter.mp (mem_of_mem_firstOfEachName member)
  obtain ⟨dependency, inWave, isReference⟩ := List.mem_flatMap.mp referenced
  obtain ⟨fresh, isOpen⟩ := (needsWork_iff nodes registry file).mp needed
  exact ⟨fresh, isOpen, dependency, inWave, isReference⟩

/-- A property of names that passes along references to open files, and that no later probe
takes away. -/
structure Spreads (registry : Registry) (inside : Memo → String → Prop) : Prop where
  later : ∀ memo after name, Memo.Within memo after → inside memo name → inside after name
  next : ∀ memo source target, inside memo source → Memo.Refers memo source target →
    registry.IsOpen target → inside memo target

/-- What any discovery keeps, open entry or not: the nodes and the files that wait have a
property that spreads, and a reference of a node that leads to an open file leads to one of
them. -/
structure Exploring (settings : Settings) (admitted : File → Prop) (registry : Registry)
    (entry : String) (inside : Memo → String → Prop) (nodes : NameMap Dependency)
    (waiting : List File) (session : Session) : Prop where
  admits : ∀ file, settings.IsResolved file → admitted file
  registryIs : session.registry = registry
  probed : Memo.ProbedFrom settings admitted session.memo
  remembered : ∀ name dependency, nodes.get? name = some dependency →
    session.memo.get? name = some dependency
  nodesInside : ∀ name, nodes.contains name = true → inside session.memo name
  closed : ∀ source target, nodes.contains source = true →
    Memo.Refers session.memo source target → registry.IsOpen target →
      nodes.contains target = true ∨ target ∈ waiting.map File.name
  waitingAdmitted : ∀ file ∈ waiting, admitted file
  waitingInside : ∀ file ∈ waiting, inside session.memo file.name
  entryHeld : nodes.contains entry = true ∨ entry ∈ waiting.map File.name

section

variable {registry : Registry} {entry : String} {inside : Memo → String → Prop}
  {nodes result : NameMap Dependency} {waves : Nat} {waiting : List File}
  {session final : Session}

theorem Exploring.start {file : File} (probed : Memo.ProbedFrom settings admitted session.memo)
    (admits : ∀ file, settings.IsResolved file → admitted file) (isAdmitted : admitted file)
    (isInside : inside session.memo file.name) :
    Exploring settings admitted session.registry file.name inside .empty [file] session := by
  refine ⟨admits, rfl, probed, ?_, ?_, ?_, ?_, ?_, Or.inr (List.mem_singleton.mpr rfl)⟩
  · intro name dependency found
    cases found
  · intro name impossible
    cases impossible
  · intro source target impossible
    cases impossible
  · intro other member
    rw [List.mem_singleton.mp member]
    exact isAdmitted
  · intro other member
    rw [List.mem_singleton.mp member]
    exact isInside

/-- One wave: the files that waited become nodes, and what they refer to waits next. -/
theorem Exploring.wave (spreads : Spreads registry inside)
    (exploring : Exploring settings admitted registry entry inside nodes waiting session) :
    let probed := session.probeWave settings waiting
    let wave := probed.remembered waiting
    Memo.Within session.memo probed.memo ∧
      Exploring settings admitted registry entry inside (addNodes nodes wave)
        (nextWave (addNodes nodes wave) probed.registry wave) probed := by
  intro probed wave
  obtain ⟨within, sound, present⟩ := probeWave_sound exploring.probed exploring.waitingAdmitted
  have known := fun dependency (member : dependency ∈ wave) => mem_remembered_named sound member
  have inWave := fun file (member : file ∈ waiting) =>
    name_mem_remembered sound member (present file member)
  have waveInside : ∀ dependency ∈ wave, inside probed.memo dependency.name := by
    intro dependency member
    obtain ⟨_, file, inWaiting, named⟩ := known dependency member
    exact named ▸ spreads.later _ _ _ within (exploring.waitingInside file inWaiting)
  have next : ∀ file ∈ nextWave (addNodes nodes wave) probed.registry wave,
      registry.IsOpen file.name ∧ ∃ dependency ∈ wave, file ∈ dependency.references := by
    intro file member
    rw [← exploring.registryIs]
    exact (mem_nextWave member).2
  refine ⟨within, exploring.admits, exploring.registryIs, sound, ?_, ?_, ?_, ?_, ?_, ?_⟩
  · intro name dependency found
    rcases get?_addNodes found with old | ⟨new, named⟩
    · exact within name dependency (exploring.remembered name dependency old)
    · exact named ▸ (known dependency new).1
  · intro name contained
    rcases (contains_addNodes nodes wave name).mp contained with old | new
    · exact spreads.later _ _ _ within (exploring.nodesInside name old)
    · obtain ⟨dependency, member, rfl⟩ := List.mem_map.mp new
      exact waveInside dependency member
  · intro source target contained refers isOpen
    rw [contains_addNodes]
    rcases (contains_addNodes nodes wave source).mp contained with old | new
    · obtain ⟨dependency, held⟩ := (NameMap.contains_iff nodes source).mp old
      have probedBefore := (NameMap.contains_iff session.memo source).mpr
        ⟨dependency, exploring.remembered source dependency held⟩
      rcases exploring.closed source target old (refers.back within probedBefore) isOpen with
        node | waits
      · exact Or.inl (Or.inl node)
      · obtain ⟨file, inWaiting, rfl⟩ := List.mem_map.mp waits
        exact Or.inl (Or.inr (inWave file inWaiting))
    · obtain ⟨dependency, member, rfl⟩ := List.mem_map.mp new
      obtain ⟨same, found, isReference⟩ := refers
      rw [(known dependency member).1] at found
      cases found
      obtain ⟨file, referenced, rfl⟩ := (Dependency.mem_referenceNames _ _).mp isReference
      cases isNode : (addNodes nodes wave).contains file.name with
      | true => exact Or.inl ((contains_addNodes nodes wave _).mp isNode)
      | false =>
          refine Or.inr ((name_mem_firstOfEachName [] _ _).mpr ⟨?_, List.not_mem_nil⟩)
          refine List.mem_map_of_mem (List.mem_filter.mpr ⟨?_, ?_⟩)
          · exact List.mem_flatMap.mpr ⟨dependency, member, referenced⟩
          · refine (needsWork_iff _ _ file).mpr ⟨isNode, ?_⟩
            rw [registry_probeWave, exploring.registryIs]
            exact isOpen
  · intro file member
    obtain ⟨_, dependency, inWave, referenced⟩ := next file member
    exact exploring.admits file (sound.references (known dependency inWave).1 referenced).2
  · intro file member
    obtain ⟨isOpen, dependency, inWave, referenced⟩ := next file member
    apply spreads.next _ _ _ (waveInside dependency inWave) _ isOpen
    exact ⟨dependency, (known dependency inWave).1, List.mem_map_of_mem referenced⟩
  · rw [contains_addNodes]
    rcases exploring.entryHeld with node | waits
    · exact Or.inl (Or.inl node)
    · obtain ⟨file, inWaiting, same⟩ := List.mem_map.mp waits
      exact Or.inl (Or.inr (same ▸ inWave file inWaiting))

theorem Exploring.grow (spreads : Spreads registry inside)
    (exploring : Exploring settings admitted registry entry inside nodes waiting session)
    (grown : Session.grow settings waves waiting nodes session = some (result, final)) :
    Memo.Within session.memo final.memo ∧
      Exploring settings admitted registry entry inside result [] final := by
  induction waves generalizing waiting nodes session with
  | zero =>
      cases waiting with
      | nil =>
          cases grown
          exact ⟨Memo.Within.refl _, exploring⟩
      | cons file files => cases grown
  | succ waves ih =>
      cases waiting with
      | nil =>
          cases grown
          exact ⟨Memo.Within.refl _, exploring⟩
      | cons file files =>
          obtain ⟨within, next⟩ := exploring.wave spreads
          obtain ⟨later, done⟩ := ih next grown
          exact ⟨within.trans later, done⟩

theorem spreads_reached (registry : Registry) (entry : String) :
    Spreads registry (fun memo name => registry.IsOpen name ∧ memo.Reaches entry name) := by
  refine ⟨?_, ?_⟩
  · exact fun _ _ _ within ⟨isOpen, reached⟩ => ⟨isOpen, reached.mono within⟩
  · exact fun _ _ _ ⟨_, reached⟩ refers isOpen => ⟨isOpen, reached.tail refers⟩

/-- Where the entry is open, all nodes are. -/
theorem growing_iff_exploring :
    Growing settings admitted registry entry nodes waiting session ↔
      Exploring settings admitted registry entry
        (fun memo name => registry.IsOpen name ∧ memo.Reaches entry name) nodes waiting
          session := by
  constructor
  · intro growing
    exact
      { growing with
        nodesInside := fun name contained =>
          ⟨growing.nodesOpen name contained, growing.nodesReached name contained⟩
        waitingInside := fun file waits =>
          ⟨growing.waitingOpen file waits, growing.waitingReached file waits⟩ }
  · intro exploring
    exact
      { exploring with
        nodesOpen := fun name contained => (exploring.nodesInside name contained).1
        nodesReached := fun name contained => (exploring.nodesInside name contained).2
        waitingOpen := fun file waits => (exploring.waitingInside file waits).1
        waitingReached := fun file waits => (exploring.waitingInside file waits).2 }

theorem Growing.start {session : Session}
    (probed : Memo.ProbedFrom settings admitted session.memo)
    (admits : ∀ file, settings.IsResolved file → admitted file) {entry : File}
    (isAdmitted : admitted entry) (isOpen : session.registry.IsOpen entry.name) :
    Growing settings admitted session.registry entry.name .empty [entry] session :=
  growing_iff_exploring.mpr (Exploring.start probed admits isAdmitted ⟨isOpen, .refl⟩)

theorem Growing.wave (growing : Growing settings admitted registry entry nodes waiting session) :
    let probed := session.probeWave settings waiting
    let wave := probed.remembered waiting
    Memo.Within session.memo probed.memo ∧
      Growing settings admitted registry entry (addNodes nodes wave)
        (nextWave (addNodes nodes wave) probed.registry wave) probed := by
  intro probed wave
  obtain ⟨within, next⟩ := (growing_iff_exploring.mp growing).wave (spreads_reached _ _)
  exact ⟨within, growing_iff_exploring.mpr next⟩

theorem Growing.grow (growing : Growing settings admitted registry entry nodes waiting session)
    (grown : Session.grow settings waves waiting nodes session = some (result, final)) :
    Memo.Within session.memo final.memo ∧
      Growing settings admitted registry entry result [] final := by
  obtain ⟨within, done⟩ := (growing_iff_exploring.mp growing).grow (spreads_reached _ _) grown
  exact ⟨within, growing_iff_exploring.mpr done⟩

end

/-- The working set below an entry: open files reached from it, closed up to files that need
no work. -/
structure IsWorkingSet (settings : Settings) (registry : Registry) (memo : Memo) (entry : String)
    (nodes : NameMap Dependency) : Prop where
  remembered : ∀ name dependency, nodes.get? name = some dependency →
    memo.get? name = some dependency
  nodesOpen : ∀ name, nodes.contains name = true → registry.IsOpen name
  nodesReached : ∀ name, nodes.contains name = true → memo.Reaches entry name
  closed : ∀ source target, nodes.contains source = true → memo.Refers source target →
    registry.IsOpen target → nodes.contains target = true
  entryHeld : nodes.contains entry = true

theorem discoverClosure_sound {session final : Session} {entry : File}
    {nodes : NameMap Dependency} (probed : Memo.ProbedFrom settings admitted session.memo)
    (admits : ∀ file, settings.IsResolved file → admitted file) (isAdmitted : admitted entry)
    (isOpen : session.registry.IsOpen entry.name)
    (discovered : session.discoverClosure settings entry = some (nodes, final)) :
    final.registry = session.registry ∧ Memo.Within session.memo final.memo ∧
      Memo.ProbedFrom settings admitted final.memo ∧
      IsWorkingSet settings session.registry final.memo entry.name nodes := by
  obtain ⟨within, done⟩ := (Growing.start probed admits isAdmitted isOpen).grow discovered
  refine ⟨done.registryIs, within, done.probed, done.remembered, done.nodesOpen,
    done.nodesReached, ?_, ?_⟩
  · intro source target contained refers targetOpen
    exact (done.closed source target contained refers targetOpen).resolve_right
      List.not_mem_nil
  · exact done.entryHeld.resolve_right List.not_mem_nil

end Session

end TexAtlas
