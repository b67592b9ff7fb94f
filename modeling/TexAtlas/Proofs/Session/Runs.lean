/-
Runs: any sequence of operations on one session. Every operation keeps a session sound, and
every operation but an override only adds to what was attributed before.
-/

import TexAtlas.Proofs.Override
import TexAtlas.Proofs.Session.Resolving

namespace TexAtlas

/-- One call on a session. -/
inductive Operation where
  | resolve (file : File)
  | index (files : List File)
  | indexAll
  | dependency (file : File)
  | applyOverrides (entries : List OverrideEntry)

namespace Operation

/-- The session after an operation, if its discoveries come to an end. -/
def perform (settings : Settings) (session : Session) : Operation → Option Session
  | .resolve file => (session.resolve settings file).map Prod.snd
  | .index files => (session.index settings files).map Prod.snd
  | .indexAll => (session.indexAll settings).map Prod.snd
  | .dependency file => some (session.dependency settings file).2
  | .applyOverrides entries => some (session.applyOverrides entries).2

/-- The files that an operation is called on. -/
def files (settings : Settings) : Operation → List File
  | .resolve file => [file]
  | .index files => files
  | .indexAll => Session.targets settings
  | .dependency file => [file]
  | .applyOverrides _ => []

def isOverride : Operation → Bool
  | .applyOverrides _ => true
  | _ => false

/-- An operation is called on files of the index. -/
def OnIndex (settings : Settings) (operation : Operation) : Prop :=
  ∀ file ∈ operation.files settings, file ∈ settings.index.files

instance (settings : Settings) (operation : Operation) :
    Decidable (operation.OnIndex settings) :=
  inferInstanceAs (Decidable (∀ file ∈ operation.files settings, file ∈ settings.index.files))

end Operation

/-- The session after several operations. -/
def Session.run (settings : Settings) (operations : List Operation) (session : Session) :
    Option Session :=
  operations.foldlM (Operation.perform settings) session

variable {settings : Settings} {admitted : File → Prop} {session after : Session}

/-! ### Overrides -/

theorem Coherent.applyEntry {memo : Memo} {registry : Registry}
    (coherent : Coherent memo registry []) (entry : OverrideEntry) :
    Coherent memo (registry.applyEntry entry).1 [] := by
  cases target : registry.overrideTarget entry.name with
  | none =>
      rw [Registry.applyEntry_of_missing target]
      exact coherent
  | some bound =>
      have get?_is := Registry.get?_applyEntry target
      have state_is := registry.state_applyEntry entry
      have settled_is : ∀ name, (registry.applyEntry entry).1.isSettled name =
          registry.isSettled name := fun name => congrArg FileState.isTerminal (state_is name)
      obtain ⟨targetName, held⟩ := Registry.exists_name_of_overrideTarget target
      obtain ⟨_, members, group, _, holds⟩ := coherent.holds_of_bound held
      rw [holds.fileNames] at get?_is
      have fresh : ∀ name other, registry.get? name = some other →
          other.number ≠ (registry.extendedBy entry bound).number := fun name other otherHeld =>
        Nat.ne_of_lt (coherent.below name other otherHeld)
      refine ⟨coherent.named, ?_, ?_, ?_, ?_, ?_, ?_⟩
      · intro left right first second leftHeld rightHeld sameNumber
        rw [get?_is] at leftHeld rightHeld
        by_cases leftInside : left ∈ members.map Dependency.name
        · rw [if_pos leftInside] at leftHeld
          cases leftHeld
          by_cases rightInside : right ∈ members.map Dependency.name
          · rw [if_pos rightInside] at rightHeld
            exact Option.some.inj rightHeld
          · rw [if_neg rightInside] at rightHeld
            exact absurd sameNumber.symm (fresh right second rightHeld)
        · rw [if_neg leftInside] at leftHeld
          by_cases rightInside : right ∈ members.map Dependency.name
          · rw [if_pos rightInside] at rightHeld
            cases rightHeld
            exact absurd sameNumber (fresh left first leftHeld)
          · rw [if_neg rightInside] at rightHeld
            exact coherent.numbered left right first second leftHeld rightHeld sameNumber
      · intro name other otherHeld
        rw [get?_is] at otherHeld
        rw [Registry.next_applyEntry target]
        split at otherHeld
        · cases otherHeld
          exact Nat.lt_succ_self _
        · exact Nat.lt_succ_of_lt (coherent.below name other otherHeld)
      · intro name impossible
        cases impossible
      · intro name absent
        rw [get?_is, state_is, settled_is]
        rcases coherent.rests name absent with ⟨unbound, unresolved⟩ | settled
        · refine Or.inl ⟨?_, unresolved⟩
          rw [if_neg, unbound]
          intro inside
          rw [(holds.held name inside).1] at unbound
          cases unbound
        · exact Or.inr settled
      · intro name settled
        rw [settled_is] at settled
        obtain ⟨others, otherGroup, inside, settles⟩ := coherent.grouped name settled
        refine ⟨others, otherGroup, inside, ?_⟩
        by_cases shared : ∃ other ∈ others.map Dependency.name,
            other ∈ members.map Dependency.name
        · obtain ⟨other, inOthers, inMembers⟩ := shared
          rw [otherGroup.unique group inOthers inMembers]
          refine Or.inl ⟨registry.extendedBy entry bound, holds.fileNames, holds.references, ?_⟩
          intro each eachInside
          rw [get?_is, if_pos eachInside, state_is]
          exact ⟨rfl, (holds.held each eachInside).2⟩
        · refine settles.congr (fun other otherInside => ⟨?_, state_is other⟩)
          rw [get?_is, if_neg (fun inMembers => shared ⟨other, otherInside, inMembers⟩)]
      · intro source destination settled refers
        rw [settled_is] at settled ⊢
        exact coherent.closed source destination settled refers

theorem Orderly.applyOverrides (orderly : Orderly settings admitted session)
    (entries : List OverrideEntry) :
    Orderly settings admitted (session.applyOverrides entries).2 := by
  have coherent : ∀ registry : Registry, Coherent session.memo registry [] →
      Coherent session.memo (registry.applyOverrides entries).1 [] := by
    induction entries with
    | nil => exact fun _ coherent => coherent
    | cons entry rest ih => exact fun registry coherent => ih _ (coherent.applyEntry entry)
  exact ⟨orderly.probed, coherent session.registry orderly.coherent⟩

theorem Sound.applyOverrides (sound : Sound settings session) (entries : List OverrideEntry) :
    Sound settings (session.applyOverrides entries).2 := by
  refine ⟨sound.toOrderly.applyOverrides entries, ?_⟩
  intro name inBaseline settled
  exact sound.hostsIndexed name inBaseline
    ((congrArg FileState.isTerminal (session.registry.state_applyOverrides entries name)).symm.trans
      settled)

/-! ### Single probes -/

/-- A single probe finds out about one more file at most. -/
theorem Session.dependency_sound (probed : Memo.ProbedFrom settings admitted session.memo)
    {file : File} (isAdmitted : admitted file) :
    (session.dependency settings file).2.registry = session.registry ∧
      Memo.Within session.memo (session.dependency settings file).2.memo ∧
      Memo.ProbedFrom settings admitted (session.dependency settings file).2.memo := by
  unfold Session.dependency
  split
  · exact ⟨rfl, Memo.Within.refl _, probed⟩
  · split
    · rename_i found answered
      have foundIs : found = settings.probeAt session.asked file := by
        rw [Settings.probeAt, answered]
        rfl
      rw [foundIs]
      exact ⟨rfl, Session.get?_remember_within session.memo _,
        Session.probed_remember probed session.asked isAdmitted⟩
    · exact ⟨rfl, Memo.Within.refl _, probed⟩

theorem Orderly.dependency (orderly : Orderly settings admitted session) {file : File}
    (isAdmitted : admitted file) :
    (session.dependency settings file).2.registry = session.registry ∧
      Memo.Within session.memo (session.dependency settings file).2.memo ∧
      Orderly settings admitted (session.dependency settings file).2 := by
  obtain ⟨registryIs, within, probed⟩ := Session.dependency_sound orderly.probed isAdmitted
  refine ⟨registryIs, within, probed, ?_⟩
  rw [registryIs]
  exact orderly.coherent.grow within probed.named

theorem dependency_advance (sound : Sound settings session) {file : File}
    (isResolved : settings.IsResolved file) (roots : String → Prop) :
    Advance settings roots session (session.dependency settings file).2 := by
  obtain ⟨registryIs, within, orderly⟩ := sound.toOrderly.dependency isResolved
  have later : Later session (session.dependency settings file).2 := by
    refine ⟨within, fun name _ => ?_⟩
    rw [registryIs]
    exact ⟨rfl, rfl⟩
  refine ⟨⟨orderly, ?_⟩, later, ?_, ?_⟩
  · intro name inBaseline settled
    rw [registryIs] at settled
    exact sound.hostsIndexed name inBaseline settled
  · intro name settled
    rw [registryIs] at settled
    exact Or.inl settled
  · intro attributed
    refine attributed.later sound.coherent later ?_
    intro members _ settled ⟨name, inside, notSettled⟩
    have impossible := settled name inside
    rw [registryIs, notSettled] at impossible
    cases impossible

/-! ### Any operation, any run -/

/-- Where an operation starts from: the baseline and the files it is called on. -/
def Operation.IsRoot (settings : Settings) (operation : Operation) (name : String) : Prop :=
  IsIndexRoot settings (operation.files settings) name

theorem index_advance {files : List File} (sound : Sound settings session)
    (indexed : ∀ file ∈ files, file ∈ settings.index.files)
    (ran : (session.index settings files).map Prod.snd = some after) :
    Advance settings (IsIndexRoot settings files) session after := by
  unfold Session.index at ran
  rw [Option.map_map, Option.map_eq_some_iff] at ran
  obtain ⟨done, folded, same⟩ := ran
  cases same
  have isTarget : ∀ file ∈ Session.targetsAmong files, file ∈ files :=
    fun file member => (List.mem_filter.mp member).1
  refine (indexFiles_advance sound (fun file member =>
    indexed file (isTarget file member)) folded).1.mono ?_
  rintro root (isHost | isTargetName)
  · exact Or.inl isHost
  · obtain ⟨file, member, rfl⟩ := List.mem_map.mp isTargetName
    exact Or.inr (List.mem_map_of_mem (isTarget file member))

/-- Every operation but an override only adds. -/
theorem Operation.advance {operation : Operation} (sound : Sound settings session)
    (onIndex : operation.OnIndex settings) (noOverride : operation.isOverride = false)
    (performed : operation.perform settings session = some after) :
    Advance settings (operation.IsRoot settings) session after := by
  cases operation with
  | resolve file =>
      obtain ⟨⟨found, resolved⟩, resolves, same⟩ := Option.map_eq_some_iff.mp performed
      cases same
      have indexed := onIndex file (List.mem_singleton.mpr rfl)
      refine (resolve_advance sound indexed resolves).1.mono ?_
      rintro root (isHost | rfl)
      · exact Or.inl isHost
      · exact Or.inr (List.mem_singleton.mpr rfl)
  | index files => exact index_advance sound onIndex performed
  | indexAll => exact index_advance sound onIndex performed
  | dependency file =>
      cases performed
      have indexed := (FileIndex.resolve_of_mem (onIndex file (List.mem_singleton.mpr rfl))).symm
      exact dependency_advance sound indexed _
  | applyOverrides entries => cases noOverride

theorem attributed_initial (settings : Settings) : Attributed settings Session.initial := by
  intro members group _
  obtain ⟨member, present⟩ := List.exists_mem_of_ne_nil members group.nonempty
  have found := group.remembered member present
  cases found

/-- A run without overrides only adds, and only what is reached from files of the index. -/
theorem advance_run {operations : List Operation} (sound : Sound settings session)
    (onIndex : ∀ operation ∈ operations, operation.OnIndex settings)
    (noOverride : ∀ operation ∈ operations, operation.isOverride = false)
    (ran : session.run settings operations = some after) :
    Advance settings (fun root => settings.index.contains root = true) session after := by
  have stable : ∀ (operation : Operation) (earlier later : Session), Later earlier later →
      True → True := fun _ _ _ _ done => done
  refine (Advance.foldlM sound stable ?_ ran).1
  intro operation member before next beforeSound performed
  have advance := operation.advance beforeSound (onIndex operation member)
    (noOverride operation member) performed
  refine ⟨advance.mono ?_, trivial⟩
  rintro root (isHost | isFile)
  · exact isHost.2
  · obtain ⟨file, inFiles, rfl⟩ := List.mem_map.mp isFile
    exact (FileIndex.contains_iff _ _).mpr
      ⟨file, FileIndex.lookup_of_mem (onIndex operation member file inFiles)⟩

/-! ### The parts of a run -/

/-- What a run is made of: to resolve the closure of an admitted file, to probe a single one,
and, in a run that is overridden, to apply overrides. -/
inductive Session.Part (settings : Settings) (admitted : File → Prop) (overridden : Prop) :
    Session → Session → Prop where
  | closure {before after : Session} {file : File} {found : Option Instance} : admitted file →
      before.resolveClosure settings file = some (found, after) →
        Part settings admitted overridden before after
  | dependency {before : Session} {file : File} : admitted file →
      Part settings admitted overridden before (before.dependency settings file).2
  | applyOverrides {before : Session} (entries : List OverrideEntry) : overridden →
      Part settings admitted overridden before (before.applyOverrides entries).2

/-- Any file at all is admitted. -/
abbrev anyFile : File → Prop := fun _ => True

/-- Parts of a run one after the other. -/
def Session.Parts (settings : Settings) (admitted : File → Prop) (overridden : Prop) :
    Session → Session → Prop :=
  Relation.ReflTransGen (Session.Part settings admitted overridden)

namespace Session.Parts

variable {overridden : Prop} {before : Session} {file : File} {found : Option Instance}

theorem foldlM {α : Type} {step : Session → α → Option Session} {items : List α}
    (each : ∀ item ∈ items, ∀ middle next, step middle item = some next →
      Parts settings admitted overridden middle next)
    (ran : items.foldlM step before = some after) :
    Parts settings admitted overridden before after := by
  induction items generalizing before with
  | nil =>
      cases ran
      exact .refl
  | cons item items ih =>
      rw [List.foldlM_cons, Option.bind_eq_bind, Option.bind_eq_some_iff] at ran
      obtain ⟨next, stepped, rest⟩ := ran
      exact (each item (List.mem_cons_self ..) before next stepped).trans
        (ih (fun other later => each other (List.mem_cons_of_mem item later)) rest)

theorem resolveBaseline (admits : ∀ file ∈ settings.index.files, admitted file)
    (ran : before.resolveBaseline settings = some after) :
    Parts settings admitted overridden before after := by
  refine foldlM ?_ ran
  intro name _ middle next stepped
  unfold Session.resolveBaselineFile at stepped
  split at stepped
  · cases stepped
    exact .refl
  · split at stepped
    · cases stepped
      exact .refl
    · rename_i file known
      obtain ⟨⟨found, _⟩, resolves, same⟩ := Option.map_eq_some_iff.mp stepped
      cases same
      exact .single (.closure (admits file (FileIndex.mem_of_lookup known).1) resolves)

theorem resolve (admits : ∀ file ∈ settings.index.files, admitted file) (isAdmitted : admitted file)
    (ran : before.resolve settings file = some (found, after)) :
    Parts settings admitted overridden before after := by
  unfold Session.resolve at ran
  rw [Option.bind_eq_some_iff] at ran
  obtain ⟨ready, based, resolves⟩ := ran
  exact (resolveBaseline admits based).tail (.closure isAdmitted resolves)

theorem indexFile (admits : ∀ file ∈ settings.index.files, admitted file)
    (isAdmitted : admitted file) (ran : before.indexFile settings file = some after) :
    Parts settings admitted overridden before after := by
  unfold Session.indexFile at ran
  split at ran
  · cases ran
    exact .refl
  · obtain ⟨⟨found, _⟩, resolves, same⟩ := Option.map_eq_some_iff.mp ran
    cases same
    exact resolve admits isAdmitted resolves

theorem index {files : List File} (admits : ∀ file ∈ settings.index.files, admitted file)
    (areAdmitted : ∀ file ∈ files, admitted file)
    (ran : (before.index settings files).map Prod.snd = some after) :
    Parts settings admitted overridden before after := by
  unfold Session.index at ran
  rw [Option.map_map, Option.map_eq_some_iff] at ran
  obtain ⟨done, folded, same⟩ := ran
  cases same
  exact foldlM (fun file member _ _ stepped =>
    indexFile admits (areAdmitted file (List.mem_filter.mp member).1) stepped) folded

theorem perform {operation : Operation} (admits : ∀ file ∈ settings.index.files, admitted file)
    (areAdmitted : ∀ file ∈ operation.files settings, admitted file)
    (overrides : operation.isOverride = true → overridden)
    (performed : operation.perform settings before = some after) :
    Parts settings admitted overridden before after := by
  cases operation with
  | resolve file =>
      obtain ⟨⟨found, _⟩, resolves, same⟩ := Option.map_eq_some_iff.mp performed
      cases same
      exact resolve admits (areAdmitted file (List.mem_singleton.mpr rfl)) resolves
  | index files => exact index admits areAdmitted performed
  | indexAll => exact index admits areAdmitted performed
  | dependency file =>
      cases performed
      exact .single (.dependency (areAdmitted file (List.mem_singleton.mpr rfl)))
  | applyOverrides entries =>
      cases performed
      exact .single (.applyOverrides entries (overrides rfl))

/-- A run is made of closures, single probes and overrides. -/
theorem run {operations : List Operation} (admits : ∀ file ∈ settings.index.files, admitted file)
    (areAdmitted : ∀ operation ∈ operations, ∀ file ∈ operation.files settings, admitted file)
    (overrides : ∀ operation ∈ operations, operation.isOverride = true → overridden)
    (ran : before.run settings operations = some after) :
    Parts settings admitted overridden before after :=
  foldlM (fun operation member _ _ performed => perform admits (areAdmitted operation member)
    (overrides operation member) performed) ran

end Session.Parts

/-- A later moment of a session that may have been overridden: no probe is forgotten and settled
files keep their state. -/
structure Onward (before after : Session) : Prop where
  within : Memo.Within before.memo after.memo
  keeps : ∀ name, before.registry.isSettled name = true →
    after.registry.state name = before.registry.state name

namespace Onward

variable {before middle : Session}

theorem refl (session : Session) : Onward session session :=
  ⟨Memo.Within.refl _, fun _ _ => rfl⟩

theorem isSettled (onward : Onward before after) {name : String}
    (settled : before.registry.isSettled name = true) : after.registry.isSettled name = true := by
  rw [Registry.isSettled, onward.keeps name settled]
  exact settled

theorem trans (first : Onward before middle) (second : Onward middle after) :
    Onward before after :=
  ⟨first.within.trans second.within, fun name settled =>
    (second.keeps name (first.isSettled settled)).trans (first.keeps name settled)⟩

end Onward

theorem Later.onward {before : Session} (later : Later before after) : Onward before after :=
  ⟨later.within, fun name settled => (later.keeps name settled).2⟩

section

variable {overridden : Prop} {before : Session}
  (admits : ∀ file, settings.IsResolved file → admitted file)

include admits

/-- One part of a run, whatever the engine answers, leaves the session in order. -/
theorem Orderly.part (orderly : Orderly settings admitted before)
    (part : Session.Part settings admitted overridden before after) :
    Orderly settings admitted after ∧ Onward before after := by
  cases part with
  | closure isAdmitted ran =>
      obtain ⟨done, later, _⟩ := orderly.resolveClosure admits isAdmitted ran
      exact ⟨done, later.onward⟩
  | dependency isAdmitted =>
      obtain ⟨registryIs, within, done⟩ := orderly.dependency isAdmitted
      exact ⟨done, within, fun name _ => by rw [registryIs]⟩
  | applyOverrides entries _ =>
      exact ⟨orderly.applyOverrides entries, Memo.Within.refl _, fun name _ =>
        before.registry.state_applyOverrides entries name⟩

theorem Orderly.parts (orderly : Orderly settings admitted before)
    (parts : before.Parts settings admitted overridden after) :
    Orderly settings admitted after ∧ Onward before after := by
  induction parts with
  | refl => exact ⟨orderly, Onward.refl before⟩
  | tail _ part ih =>
      obtain ⟨done, onward⟩ := ih.1.part admits part
      exact ⟨done, ih.2.trans onward⟩

end

/-- A session that is met in some run: closures, single probes and overrides, of and about any
files, lead to it. -/
def Session.Reachable (settings : Settings) (session : Session) : Prop :=
  Session.initial.Parts settings anyFile True session

theorem Session.Reachable.initial (settings : Settings) : Session.initial.Reachable settings :=
  .refl

theorem Session.Reachable.orderly (reachable : session.Reachable settings) :
    Orderly settings anyFile session :=
  ((Orderly.initial settings anyFile).parts (fun _ _ => trivial) reachable).1

theorem reachable_run {operations : List Operation}
    (ran : Session.initial.run settings operations = some session) :
    session.Reachable settings :=
  Session.Parts.run (fun _ _ => trivial) (fun _ _ _ _ => trivial) (fun _ _ _ => trivial) ran

/-! ### A small distribution -/

/-- An engine that looks a document up among those that it has replies to, and lists no files for
any other. -/
def Engine.ofReplies (replies : List (String × Reply)) : Engine := fun call =>
  (replies.lookup call.document).getD (.transcript "*File List*\n")

theorem Engine.mem_of_ofReplies {replies : List (String × Reply)} {call : Call} {text : String}
    (answered : Engine.ofReplies replies call = .transcript text) :
    (call.document, .transcript text) ∈ replies ∨ text = "*File List*\n" := by
  unfold Engine.ofReplies at answered
  cases found : replies.lookup call.document with
  | none =>
      rw [found] at answered
      cases answered
      exact Or.inr rfl
  | some reply =>
      rw [found] at answered
      cases answered
      obtain ⟨before, after, isSplit, _⟩ := List.lookup_eq_some_iff.mp found
      exact Or.inl (isSplit ▸ List.mem_append_cons_self)

/-- A file of the small distribution. -/
def File.sample (name : String) : File :=
  .ofPath (.ofString ("tex/latex/" ++ name))

/-- `a.sty` and `b.sty` load each other, and `a.sty` loads `c.sty` and `d.sty`. The engine knows
one symbol of the host class and of `c.sty`, two of the knot, and runs out of time about
`d.sty`. -/
def Engine.sample : Engine := .ofReplies
  [(Probe.listingDocument (.sample "a.sty"), .transcript "*File List*\nb.sty\nc.sty\nd.sty\n"),
    (Probe.listingDocument (.sample "b.sty"), .transcript "*File List*\na.sty\n"),
    (Probe.classificationDocument (.sample "article.cls") (.ofList ["art"]),
      .transcript "cmd:art\n"),
    (Probe.classificationDocument (.sample "c.sty") (.ofList ["low"]), .transcript "cmd:low\n"),
    (Probe.classificationDocument (.sample "d.sty") (.ofList ["dim"]),
      .fault (.timedOut ⟨1000⟩)),
    (Probe.classificationDocument (.sample "a.sty") (.ofList ["dim", "knot", "ring"]),
      .transcript "env:knot\ncmd:ring\n")]

/-- The sources of the small distribution, by file name. -/
def sampleSources : List (String × String) :=
  [("article.cls", "def art"), ("a.sty", "def ring low art"), ("b.sty", "knot def"),
    ("c.sty", "def low"), ("d.sty", "dim")]

/-- A host class and four packages, whose sources are words. The word `def` is a command of the
kernel. -/
def Settings.sample : Settings :=
  { index := FileIndex.ofList (sampleSources.map (fun source => File.sample source.1))
    engine := fun _ => Engine.sample
    probeBudget := ⟨1000⟩
    classifyBudget := ⟨1000⟩
    baseline := Probe.Lister.baselineOf []
    kernel := ⟨.ofList ["def"], .empty⟩
    grammar := (Pattern.repeated (.letter (.ranges [('a', 'z')])) 1 none true).program
    read := fun _ path =>
      match sampleSources.lookup (File.ofPath path).name with
      | some source => .ok source.toUTF8.toList
      | none => .error .notFound
    pool := .sequential
    schedule := fun _ => []
    waveLimit := 8 }

theorem Settings.steady_sample : Settings.sample.Steady :=
  ⟨fun _ => rfl, fun _ => rfl⟩

theorem Settings.baseline_sample : Settings.sample.baseline.toList = ["article.cls"] := by
  decide +kernel

/-- Resolving one package of the knot first, then everything. -/
def Operation.sample : List Operation :=
  [.resolve (.sample "b.sty"), .indexAll]

theorem Operation.onIndex_sample :
    ∀ operation ∈ Operation.sample, operation.OnIndex Settings.sample := by
  decide +kernel

theorem Operation.noOverride_sample :
    ∀ operation ∈ Operation.sample, operation.isOverride = false := by
  decide

/-- The component of the knot. What else its sources mention are symbols of the kernel, of the
host class and of the package below, and one that the engine does not know. -/
def Component.knot : Component :=
  ⟨["a.sty", "b.sty"], ["c.sty", "d.sty"], .ofList ["ring"], .ofList ["knot"]⟩

def Component.host : Component :=
  ⟨["article.cls"], [], .ofList ["art"], .empty⟩

def Component.below : Component :=
  ⟨["c.sty"], [], .ofList ["low"], .empty⟩

theorem run_sample :
    ∃ session ∈ Session.initial.run Settings.sample Operation.sample,
      session.registry.components = [.knot, .host, .below] ∧
      (session.registry.get? "a.sty").map Instance.component = some .knot ∧
      (session.registry.get? "article.cls").map Instance.component = some .host ∧
      (session.registry.get? "c.sty").map Instance.component = some .below ∧
      session.registry.state "d.sty" = .skipped ∧
      session.registry.shares "a.sty" "b.sty" = true ∧
      session.registry.shares "a.sty" "c.sty" = false ∧
      (session.memo.get? "article.cls").map Dependency.referenceNames = some [] ∧
      (session.memo.get? "a.sty").map Dependency.includes =
        some (["a.sty", "b.sty", "c.sty", "d.sty"].map File.sample) ∧
      (session.registry.reachable
        (Component.knot.references ++ Settings.sample.baseline.toList)).map
          Instance.component = [.below, .host] := by
  decide +kernel

/-- No baseline file leads to the knot where the host class loads nothing. -/
theorem Component.knot_away
    (nothing : (session.memo.get? "article.cls").map Dependency.referenceNames = some []) :
    ∀ host ∈ Settings.sample.baseline.toList, ∀ member ∈ Component.knot.fileNames,
      ¬Memo.Reaches session.memo host member := by
  intro host isHost member isMember reaches
  rw [Settings.baseline_sample, List.mem_singleton] at isHost
  subst isHost
  rcases reaches.cases_head with same | ⟨next, ⟨dependency, found, isReference⟩, _⟩
  · rw [← same] at isMember
    revert isMember
    decide
  · rw [found, Option.map_some, Option.some.injEq] at nothing
    rw [nothing] at isReference
    cases isReference

/-- Indexing a package of the knot and the package below. -/
theorem index_sample :
    ∃ done ∈ Session.initial.index Settings.sample (["b.sty", "c.sty"].map File.sample),
      done.1 = ⟨2, 3, 5, ["d.sty"]⟩ ∧ done.2.registry.components = [.knot, .host, .below] ∧
      done.2.registry.state "a.sty" = .registered ∧
      done.2.registry.state "c.sty" = .registered ∧
      (done.2.registry.get? "c.sty").map Instance.component = some .below ∧
      done.2.probed ≤ Settings.sample.waveLimit := by
  decide +kernel

end TexAtlas
