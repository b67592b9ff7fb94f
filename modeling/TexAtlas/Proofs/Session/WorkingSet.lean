/-
Discovery is exact. Whatever was probed before and whatever the registry holds, a discovery
over an engine whose transcripts mention finitely many names comes to an end. Its nodes are the
files to which a chain of references leads from the entry, every file after the entry being
open. The clustering has each of them once, and no other file is probed.
-/

import TexAtlas.Proofs.Session.Indexing
import TexAtlas.Proofs.Session.Journal
import TexAtlas.Proofs.Session.Runs

namespace TexAtlas

variable {settings : Settings} {session : Session}

/-! ### Chains of open files -/

namespace Memo

/-- A chain of references leads from one file to another, and every file on it but the first is
open. -/
def OpenlyReaches (memo : Memo) (registry : Registry) : String → String → Prop :=
  Relation.ReflTransGen (fun source target => memo.Refers source target ∧ registry.IsOpen target)

variable {memo : Memo} {registry : Registry} {entry : String}

theorem OpenlyReaches.mono {later : Memo} (within : memo.Within later) {name : String}
    (reached : memo.OpenlyReaches registry entry name) :
    later.OpenlyReaches registry entry name := by
  induction reached with
  | refl => exact .refl
  | tail _ last ih => exact ih.tail ⟨last.1.mono within, last.2⟩

theorem spreads_openlyReaches (registry : Registry) (entry : String) :
    Session.Spreads registry (fun memo name => memo.OpenlyReaches registry entry name) where
  later _ _ _ within reached := reached.mono within
  next _ _ _ reached refers isOpen := reached.tail ⟨refers, isOpen⟩

/-- A chain leaves the entry only for a file that something refers to. -/
theorem OpenlyReaches.eq_or_refers {name : String}
    (reached : memo.OpenlyReaches registry entry name) :
    name = entry ∨ ∃ source, memo.Refers source name := by
  rcases reached.cases_tail with same | ⟨source, _, refers, _⟩
  · exact Or.inl same
  · exact Or.inr ⟨source, refers⟩

end Memo

/-! ### Waves without a limit -/

/-- The same settings, but for the number of waves that a discovery may take. -/
def Settings.withWaves (settings : Settings) (limit : Nat) : Settings :=
  { settings with waveLimit := limit }

namespace Session

variable {waiting : List File} {nodes result : NameMap Dependency} {final : Session}

theorem grow_withWaves (limit waves : Nat) :
    grow (settings.withWaves limit) waves waiting nodes session =
      grow settings waves waiting nodes session := by
  induction waves generalizing waiting nodes session with
  | zero => cases waiting <;> rfl
  | succ waves ih =>
      cases waiting with
      | nil => rfl
      | cons file files => exact ih

/-- Once a discovery has come to an end, more waves do not change what it found. -/
theorem grow_of_le {fewer more : Nat} (enough : fewer ≤ more)
    (grown : grow settings fewer waiting nodes session = some (result, final)) :
    grow settings more waiting nodes session = some (result, final) := by
  induction fewer generalizing more waiting nodes session with
  | zero =>
      cases waiting with
      | nil => cases more <;> exact grown
      | cons file files => cases grown
  | succ fewer ih =>
      cases more with
      | zero => omega
      | succ more =>
          cases waiting with
          | nil => exact grown
          | cons file files =>
              apply ih _ grown
              omega

end Session

/-! ### Transcripts over finitely many names -/

/-- Whatever the engine is asked, and whenever, its transcripts list no names but these. -/
def Settings.MentionsOnly (settings : Settings) (names : List String) : Prop :=
  ∀ asked call transcript listed, settings.engine asked call = .transcript transcript →
    Probe.fileTable transcript = some listed → ∀ name ∈ listed, name ∈ names

theorem Settings.MentionsOnly.loaded {names : List String} (mentions : settings.MentionsOnly names)
    {asked : Nat} {file loaded : File} (member : loaded ∈ (settings.probeAt asked file).loaded) :
    loaded.name ∈ names := by
  rcases settings.probeAt_answered asked file with
    ⟨reason, probed⟩ | ⟨found, transcript, answered, listed, probed⟩
  · rw [probed] at member
    cases member
  · rw [probed] at member
    obtain ⟨table, isTable, inTable, _⟩ :=
      Settings.mem_filesIn listed (List.mem_filter.mp member).1
    exact mentions _ _ _ _ answered isTable _ inTable

theorem Settings.MentionsOnly.refers {names : List String} {admitted : File → Prop} {memo : Memo}
    (mentions : settings.MentionsOnly names) (probed : memo.ProbedFrom settings admitted)
    {source target : String} (refers : memo.Refers source target) : target ∈ names := by
  obtain ⟨dependency, found, isReference⟩ := refers
  obtain ⟨file, referenced, rfl⟩ := (Dependency.mem_referenceNames _ _).mp isReference
  obtain ⟨asked, origin, _, _, rfl⟩ := probed source dependency found
  exact mentions.loaded (Dependency.mem_references referenced).1

/-! ### What earlier calls leave behind -/

/-- A session that earlier single probes and clusterings left behind, of any files. Between them
the registry and the journal may become anything at all. -/
inductive Session.Explored (settings : Settings) : Session → Prop where
  | initial : Explored settings Session.initial
  | elsewhere {session : Session} (registry : Registry) (journal : List Event) :
      Explored settings session →
        Explored settings { session with registry := registry, journal := journal }
  | dependency {session : Session} (file : File) : Explored settings session →
      Explored settings (session.dependency settings file).2
  | cluster {session after : Session} {file : File} {clustering : Clustering} (limit : Nat) :
      Explored settings session →
        session.cluster (settings.withWaves limit) file = some (clustering, after) →
          Explored settings after

namespace Session

variable {admitted : File → Prop} {registry : Registry} {entry : String} {waves : Nat}
  {inside : Memo → String → Prop} {waiting : List File} {nodes result : NameMap Dependency}
  {final : Session}

theorem exploring_start (probed : Memo.ProbedFrom settings anyFile session.memo) (file : File) :
    Exploring settings anyFile session.registry file.name
      (fun memo name => memo.OpenlyReaches session.registry file.name name) .empty [file]
        session :=
  Exploring.start probed (fun _ _ => trivial) trivial .refl

theorem Explored.probed (explored : session.Explored settings) :
    Memo.ProbedFrom settings anyFile session.memo := by
  induction explored with
  | initial =>
      intro name dependency found
      cases found
  | elsewhere registry journal _ ih => exact ih
  | dependency file _ ih => exact (dependency_sound ih trivial).2.2
  | cluster limit _ clustered ih =>
      obtain ⟨⟨nodes, _⟩, discovered, same⟩ := Option.map_eq_some_iff.mp clustered
      cases same
      rw [discoverClosure, grow_withWaves] at discovered
      exact ((exploring_start ih _).grow (Memo.spreads_openlyReaches _ _) discovered).2.probed

/-! ### One discovery -/

/-- A discovery probes only files with the property that spreads. -/
theorem Exploring.learned (spreads : Spreads registry inside)
    (exploring : Exploring settings admitted registry entry inside nodes waiting session)
    (distinct : (waiting.map File.name).Nodup)
    (grown : Session.grow settings waves waiting nodes session = some (result, final)) :
    ∃ files, Learned files session final ∧ ∀ file ∈ files, inside final.memo file.name := by
  have within := (exploring.grow spreads grown).1
  induction waves generalizing waiting nodes session with
  | zero =>
      cases waiting with
      | nil =>
          cases grown
          exact ⟨[], Learned.refl _, fun _ impossible => by cases impossible⟩
      | cons file files => cases grown
  | succ waves ih =>
      cases waiting with
      | nil =>
          cases grown
          exact ⟨[], Learned.refl _, fun _ impossible => by cases impossible⟩
      | cons file files =>
          obtain ⟨_, next⟩ := exploring.wave spreads
          obtain ⟨more, learned, areInside⟩ :=
            ih next (nodup_firstOfEachName _ _) grown (next.grow spreads grown).1
          refine ⟨_, (learned_probeWave distinct).trans learned, ?_⟩
          intro other member
          rcases List.mem_append.mp member with now | later
          · have waits := (List.mem_filter.mp now).1
            exact spreads.later _ _ _ within (exploring.waitingInside other waits)
          · exact areInside other later

theorem Exploring.named
    (exploring : Exploring settings admitted registry entry inside nodes waiting session) :
    Memo.Named nodes := fun name dependency found =>
  exploring.probed.named name dependency (exploring.remembered name dependency found)

theorem Exploring.known
    (exploring : Exploring settings admitted registry entry inside nodes waiting session)
    {name : String} (isNode : nodes.contains name = true) :
    session.memo.contains name = true := by
  obtain ⟨dependency, found⟩ := (NameMap.contains_iff _ _).mp isNode
  exact (NameMap.contains_iff _ _).mpr ⟨dependency, exploring.remembered name dependency found⟩

/-- In the end the nodes are closed under references to open files, so a chain of open files
cannot leave them. -/
theorem Exploring.isNode_of_openlyReaches
    (exploring : Exploring settings admitted registry entry inside nodes [] session)
    {name : String} (reached : Memo.OpenlyReaches session.memo registry entry name) :
    nodes.contains name = true := by
  induction reached with
  | refl => exact exploring.entryHeld.resolve_right List.not_mem_nil
  | tail _ last ih => exact (exploring.closed _ _ ih last.1 last.2).resolve_right List.not_mem_nil

/-- What a discovery from an entry finds, and what it leaves behind. -/
structure Discovers (settings : Settings) (entry : String) (nodes : NameMap Dependency)
    (before after : Session) : Prop where
  registryIs : after.registry = before.registry
  /-- What was found out before is kept, and all that is known comes from probes. -/
  within : Memo.Within before.memo after.memo
  probed : Memo.ProbedFrom settings anyFile after.memo
  known : ∀ name, after.memo.contains name = true ↔
    before.memo.contains name = true ∨ nodes.contains name = true
  nodesDistinct : nodes.keys.Nodup
  nodesExact : ∀ name, nodes.contains name = true ↔
    Memo.OpenlyReaches after.memo before.registry entry name
  remembered : ∀ name dependency, nodes.get? name = some dependency →
    after.memo.get? name = some dependency
  /-- The clustering has every node in one of its groups, and there once. -/
  clusteredOnce : (Clustering.namesOf (clusterNodes nodes).components).Perm nodes.keys
  clusteredAs : ∀ members ∈ (clusterNodes nodes).components, ∀ dependency ∈ members,
    nodes.get? dependency.name = some dependency
  /-- What the engine is asked about: the nodes that were not known, each once. -/
  asksOnce : ∃ files : List File, after.journal = before.journal ++ files.map Event.listed ∧
    (files.map File.name).Nodup ∧
    ∀ name, name ∈ files.map File.name ↔
      nodes.contains name = true ∧ before.memo.contains name = false

theorem discovers_of_grow {file : File} (probed : Memo.ProbedFrom settings anyFile session.memo)
    (grown : grow settings waves [file] .empty session = some (result, final)) :
    session.Discovers settings file.name result final := by
  have spreads := Memo.spreads_openlyReaches session.registry file.name
  obtain ⟨within, done⟩ := (exploring_start probed file).grow spreads grown
  obtain ⟨files, learned, areInside⟩ :=
    (exploring_start probed file).learned spreads (List.nodup_singleton file.name) grown
  have exact : ∀ name, result.contains name = true ↔
      Memo.OpenlyReaches final.memo session.registry file.name name := by
    intro name
    constructor
    · exact done.nodesInside name
    · exact done.isNode_of_openlyReaches
  have nodeOfAsked : ∀ name ∈ files.map File.name, result.contains name = true := by
    intro name asked
    obtain ⟨other, inFiles, rfl⟩ := List.mem_map.mp asked
    exact (exact other.name).mpr (areInside other inFiles)
  refine ⟨done.registryIs, within, done.probed, ?_, result.distinct, exact, done.remembered,
    namesOf_clusterNodes done.named, ?_, files, learned.journal, learned.nodup, ?_⟩
  · intro name
    constructor
    · intro known
      cases earlier : session.memo.contains name with
      | true => exact Or.inl rfl
      | false => exact Or.inr (nodeOfAsked name ((learned.mem_names_iff name).mpr ⟨earlier, known⟩))
    · rintro (earlier | isNode)
      · exact within.contains earlier
      · exact done.known isNode
  · intro members isGroup dependency member
    obtain ⟨names, _, rfl⟩ := List.mem_map.mp isGroup
    obtain ⟨name, found⟩ := mem_membersOf member
    rwa [done.named name dependency found]
  · intro name
    constructor
    · intro asked
      exact ⟨nodeOfAsked name asked, ((learned.mem_names_iff name).mp asked).1⟩
    · rintro ⟨isNode, unknown⟩
      exact (learned.mem_names_iff name).mpr ⟨unknown, done.known isNode⟩

/-- Let an engine mention finitely many names in its transcripts. After any earlier calls, for
any registry and any entry, the discovery ends within one wave more than there are names. However
many more waves it may take, it finds the files to which a chain of references leads from the
entry through open files, as the memo has them; the clustering has each of them once, and only
those of them are probed that were not known. -/
theorem discovery_exact {names : List String} (mentions : settings.MentionsOnly names)
    (explored : session.Explored settings) (entry : File) :
    ∃ nodes after, session.Discovers settings entry.name nodes after ∧
      ∀ limit, names.length < limit →
        session.discoverClosure (settings.withWaves limit) entry = some (nodes, after) ∧
          session.cluster (settings.withWaves limit) entry = some (clusterNodes nodes, after) := by
  have listed : ∀ memo : Memo, memo.ProbedFrom settings anyFile → ∀ name,
      memo.OpenlyReaches session.registry entry.name name → name ∈ entry.name :: names := by
    intro memo probed name reached
    rcases reached.eq_or_refers with rfl | ⟨source, refers⟩
    · exact List.mem_cons_self ..
    · exact List.mem_cons_of_mem _ (mentions.refers probed refers)
  have enough : (entry.name :: names).length ≤
      (NameMap.empty : NameMap Dependency).size + (names.length + 1) := Nat.le_add_left _ _
  obtain ⟨nodes, after, grown⟩ := (exploring_start explored.probed entry).completes
    (Memo.spreads_openlyReaches _ _) listed (fun _ _ => rfl) enough
  refine ⟨nodes, after, discovers_of_grow explored.probed grown, ?_⟩
  intro limit more
  have discovered : session.discoverClosure (settings.withWaves limit) entry =
      some (nodes, after) := by
    rw [discoverClosure, grow_withWaves]
    exact grow_of_le more grown
  refine ⟨discovered, ?_⟩
  rw [cluster, discovered]
  rfl

end Session

/-! ### A knot whose entry is settled already -/

theorem Settings.mentionsOnly_sample :
    Settings.sample.MentionsOnly ["a.sty", "b.sty", "c.sty", "d.sty"] := by
  have each : ∀ transcript ∈ ["*File List*\nb.sty\nc.sty\nd.sty\n", "*File List*\na.sty\n",
      "cmd:art\n", "cmd:low\n", "env:knot\ncmd:ring\n", "*File List*\n"],
      ∀ listed ∈ Probe.fileTable transcript, ∀ name ∈ listed,
        name ∈ ["a.sty", "b.sty", "c.sty", "d.sty"] := by
    decide +kernel
  intro asked call transcript listed answered isTable
  apply each transcript _ listed isTable
  rcases Engine.mem_of_ofReplies answered with replied | rfl
  · simp only [List.mem_cons, Prod.mk.injEq, Reply.transcript.injEq, reduceCtorEq, and_false,
      List.not_mem_nil, or_false, false_or] at replied
    rcases replied with ⟨_, rfl⟩ | ⟨_, rfl⟩ | ⟨_, rfl⟩ | ⟨_, rfl⟩ | ⟨_, rfl⟩ <;> simp
  · simp

/-- One half of the knot was probed, the other is registered already, and of the packages that it
loads beside one is skipped. -/
def Session.halfway : Session :=
  { (Session.initial.dependency Settings.sample (.sample "b.sty")).2 with
    registry := (Registry.empty.advance "a.sty" .registered).advance "c.sty" .skipped }

theorem halfway_discovery_exact :
    ∃ nodes after,
      Session.halfway.Discovers Settings.sample "a.sty" nodes after ∧
      Session.halfway.discoverClosure (Settings.sample.withWaves 5) (.sample "a.sty") =
        some (nodes, after) ∧
      nodes.keys = ["a.sty", "b.sty", "d.sty"] ∧
        after.memo.keys = ["b.sty", "a.sty", "d.sty"] ∧ after.asked = 3 := by
  have explored : Session.halfway.Explored Settings.sample :=
    .elsewhere _ _ (.dependency (.sample "b.sty") .initial)
  have isName : (File.sample "a.sty").name = "a.sty" := by decide +kernel
  obtain ⟨nodes, after, discovers, ends⟩ := Session.discovery_exact Settings.mentionsOnly_sample
    explored (.sample "a.sty")
  obtain ⟨discovered, _⟩ := ends 5 (by decide)
  have computed : (Session.halfway.discoverClosure (Settings.sample.withWaves 5)
      (.sample "a.sty")).map (fun found => (found.1.keys, found.2.memo.keys, found.2.asked)) =
      some (["a.sty", "b.sty", "d.sty"], ["b.sty", "a.sty", "d.sty"], 3) := by
    decide +kernel
  rw [isName] at discovers
  rw [discovered, Option.map_some, Option.some.injEq, Prod.mk.injEq, Prod.mk.injEq] at computed
  exact ⟨nodes, after, discovers, discovered, computed⟩

end TexAtlas
