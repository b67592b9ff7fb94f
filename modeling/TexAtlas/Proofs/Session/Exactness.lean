/-
Attribution is exact, and the final registry tells how it came about. What a component was
asked about is the set of tokens of its sources, apart from the names of the kernel and of
everything that its references and the baseline lead to in the end; what it defines is what
the engine reported about them.
-/

import TexAtlas.Proofs.Scanner
import TexAtlas.Proofs.Session.Completion

namespace TexAtlas

/-- The classifier gives symbols where there is nothing to ask, or where the engine answers. -/
theorem Probe.Classifier.classify_eq_ok_iff {classifier : Probe.Classifier} {file : File}
    {candidates : SortedNames} {classification : Probe.Classification} :
    classifier.classify file candidates = .value (.ok classification) ↔
      if candidates.isEmpty then classification = .empty
      else ∃ text, classifier.engine (classifier.call file candidates) = .transcript text ∧
        classification = Probe.readTagged text := by
  unfold classify
  split
  · constructor
    · intro same
      cases same
      rfl
    · rintro rfl
      rfl
  · cases classifier.engine (classifier.call file candidates) with
    | transcript text =>
        constructor
        · intro same
          cases same
          exact ⟨text, rfl, rfl⟩
        · rintro ⟨other, same, rfl⟩
          cases same
          rfl
    | fault fault =>
        constructor
        · intro impossible
          cases impossible
        · rintro ⟨_, impossible, _⟩
          cases impossible
    | panicked panic =>
        constructor
        · intro impossible
          cases impossible
        · rintro ⟨_, impossible, _⟩
          cases impossible

variable {settings : Settings} {session : Session} {members : List Dependency}
  {hosts : List String} {reached : List Component}
  {answer : Outcome (Except Probe.ClassifyError Probe.Classification)}

/-- A name is a token of a readable source that one of the files includes. -/
def Session.Mentions (settings : Settings) (session : Session) (names : List String)
    (symbol : String) : Prop :=
  ∃ name ∈ names, ∃ dependency, session.memo.get? name = some dependency ∧
    ∃ file ∈ dependency.includes, ∃ text, file.readSource (settings.read 0) = .ok text ∧
      symbol ∈ ((settings.scanner 0).tokenize text).toList

/-- A name that a component could define, seen from the registry of a session: its sources
mention it, and neither the kernel defines it nor anything that the references of the
component and the baseline lead to. -/
def Session.IsCandidate (settings : Settings) (session : Session) (component : Component)
    (symbol : String) : Prop :=
  session.Mentions settings component.fileNames symbol ∧
    ¬settings.kernel.Defines symbol ∧
      ∀ other, session.registry.Leads (component.references ++ settings.baseline.toList) other →
        ¬other.component.Defines symbol

/-- The symbols of a component are exactly what the engine reported about the candidates. -/
def Settings.Reported (settings : Settings) (component : Component) (lead : File)
    (candidates : SortedNames) : Prop :=
  if candidates.isEmpty then component.commands.toList = [] ∧ component.environments.toList = []
  else ∃ text, settings.engine 0 ((settings.classifier 0).call lead candidates) =
      .transcript text ∧
    component.commands.toList = (Probe.readTagged text).commands.toList ∧
    component.environments.toList = (Probe.readTagged text).environments.toList

theorem Settings.reported_of_classify (settings : Settings) {component : Component} {lead : File}
    {candidates : SortedNames} {classification : Probe.Classification}
    (componentIs : component = GroupTask.componentOf members classification)
    (classified : (settings.classifier 0).classify lead candidates =
      .value (.ok classification)) : settings.Reported component lead candidates := by
  -- Reports come in ascending order, which a component keeps.
  have kept : ∀ names : SortedNames, (NameSet.ofList names.toList).toList = names.toList :=
    fun names => NameSet.ofList_toList_of_nodup (SortedNames.nodup_of_ascending names.ascending)
  have reported := Probe.Classifier.classify_eq_ok_iff.mp classified
  unfold Settings.Reported
  split at reported
  · rename_i nothing
    rw [if_pos nothing, componentIs, reported]
    exact ⟨rfl, rfl⟩
  · rename_i something
    obtain ⟨text, answered, rfl⟩ := reported
    rw [if_neg something, componentIs]
    exact ⟨text, answered, kept _, kept _⟩

/-- No file of a group is lost when its sources are listed. -/
theorem Sound.mem_sources (sound : Sound settings session)
    (group : Memo.IsGroup session.memo members) (file : File) :
    file ∈ Scanner.sources members ↔ ∃ member ∈ members, file ∈ member.includes := by
  have resolved : ∀ file ∈ members.flatMap Dependency.includes, settings.IsResolved file := by
    intro file included
    obtain ⟨member, present, inMember⟩ := List.mem_flatMap.mp included
    exact sound.probed.includes (group.remembered member present) inMember
  have same : ∀ file ∈ members.flatMap Dependency.includes,
      ∀ other ∈ members.flatMap Dependency.includes, file.name = other.name → file = other := by
    intro file isFile other isOther sameName
    rw [resolved file isFile, resolved other isOther, sameName]
  rw [Scanner.sources, mem_firstOfEachName_iff same, List.mem_flatMap]

theorem Sound.mentions_iff (sound : Sound settings session)
    (group : Memo.IsGroup session.memo members) (symbol : String) :
    session.Mentions settings (members.map Dependency.name) symbol ↔
      ∃ file ∈ Scanner.sources members, symbol ∈ ((settings.scanner 0).tokensOf file).toList := by
  constructor
  · rintro ⟨name, inside, dependency, found, file, included, read⟩
    obtain ⟨member, present, rfl⟩ := List.mem_map.mp inside
    rw [group.remembered member present] at found
    have same := Option.some.inj found
    exact ⟨file, (sound.mem_sources group file).mpr ⟨member, present, same ▸ included⟩,
      Scanner.mem_tokensOf.mpr read⟩
  · rintro ⟨file, isSource, isToken⟩
    obtain ⟨member, present, included⟩ := (sound.mem_sources group file).mp isSource
    exact ⟨member.name, List.mem_map_of_mem present, member, group.remembered member present,
      file, included, Scanner.mem_tokensOf.mp isToken⟩

/-- Away from the baseline, what counted for a group is what the references of the group and
all of the baseline lead to now. -/
theorem Attribution.surveyed_baseline
    (attribution : Attribution settings session members hosts reached answer)
    (sound : Sound settings session)
    (away : ¬∃ host, IsHost settings host ∧ ∀ name ∈ members.map Dependency.name,
      Memo.Reaches session.memo host name) :
    session.registry.Surveyed
      (Component.outwardReferences members ++ settings.baseline.toList) reached := by
  have all := attribution.complete.resolve_right away
  refine attribution.surveyed.congr (Registry.leads_congr_roots ?_)
  intro name isBound
  rw [List.mem_append, List.mem_append]
  refine or_congr_right ?_
  constructor
  · intro inBaseline
    obtain ⟨bound, held⟩ := (Registry.contains_iff _ name).mp isBound
    have settled := (sound.coherent.holds_of_bound held).1
    exact all name ⟨inBaseline, sound.hostsIndexed name inBaseline settled⟩
  · exact fun isHost => (attribution.hostsAre name isHost).1.1

/-- After any run without overrides, a component that no baseline file reaches has exactly the
symbols that the engine reports about its candidates, as the final registry has them, for its
first file. -/
theorem attribution_exact {operations : List Operation} (steady : settings.Steady)
    (onIndex : ∀ operation ∈ operations, operation.OnIndex settings)
    (noOverride : ∀ operation ∈ operations, operation.isOverride = false)
    (ran : Session.initial.run settings operations = some session) {name : String}
    {bound : Instance} (held : session.registry.get? name = some bound)
    (away : ∀ host ∈ settings.baseline.toList, ∀ member ∈ bound.component.fileNames,
      ¬Memo.Reaches session.memo host member) :
    ∃ lead candidates, lead.name ∈ bound.component.fileNames ∧
      (∀ other ∈ bound.component.fileNames, lead.name ≤ other) ∧
      lead = settings.index.resolve lead.name ∧
      (∀ symbol, symbol ∈ candidates.toList ↔
        session.IsCandidate settings bound.component symbol) ∧
      settings.Reported bound.component lead candidates := by
  have advance := advance_run (Sound.initial settings) onIndex noOverride ran
  have sound := advance.sound
  have coherent := sound.coherent
  obtain ⟨_, members, group, inside, holds⟩ := coherent.holds_of_bound held
  have settles : session.registry.Settles members := Or.inl ⟨bound, holds⟩
  obtain ⟨hosts, reached, answer, attribution⟩ := advance.attributed (attributed_initial settings)
    members group (fun other otherInside => settles.isSettled otherInside)
  have surveyed := attribution.surveyed_baseline sound (by
    rintro ⟨host, isHost, leadsTo⟩
    exact away host isHost.1 name (holds.fileNames ▸ inside) (leadsTo name inside))
  obtain ⟨classification, rfl, component⟩ :=
    attribution.follows.classified_of_held inside held
  obtain ⟨lead, rest, scannedAt, askedAt, membersAre, answerIs⟩ := attribution.isAnswer
  rw [steady.scanner scannedAt, steady.classifier askedAt] at answerIs
  have leadKnown : session.memo.get? lead.name = some lead :=
    group.remembered lead (membersAre ▸ List.mem_cons_self ..)
  have leadIs := sound.probed.file leadKnown
  refine ⟨lead.file, _, ?_, ?_, leadIs, ?_,
    settings.reported_of_classify component answerIs.symm⟩
  · rw [holds.fileNames, membersAre]
    exact List.mem_cons_self ..
  · rw [membersAre] at group
    rw [holds.fileNames, membersAre]
    exact fun other otherInside => group.lead_le otherInside
  · intro symbol
    rw [Scanner.mem_candidates, Session.IsCandidate, holds.fileNames,
      sound.mentions_iff group symbol, holds.references]
    refine and_congr_right' (and_congr_right' ?_)
    constructor
    · intro free other leads
      exact free other.component ((surveyed other.component).mpr ⟨other, leads, rfl⟩)
    · intro free counted isCounted
      obtain ⟨other, leads, rfl⟩ := (surveyed counted).mp isCounted
      exact free other leads

/-! ### The knot -/

theorem Settings.sample_mentions
    (includes : (session.memo.get? "a.sty").map Dependency.includes =
      some (["a.sty", "b.sty", "c.sty", "d.sty"].map File.sample)) :
    ∀ symbol ∈ ["art", "def", "dim", "knot", "low", "ring"],
      session.Mentions Settings.sample Component.knot.fileNames symbol := by
  have tokens : ∀ symbol ∈ ["art", "def", "dim", "knot", "low", "ring"],
      ∃ file ∈ ["a.sty", "b.sty", "c.sty", "d.sty"].map File.sample,
        symbol ∈ ((Settings.sample.scanner 0).tokensOf file).toList := by
    decide +kernel
  intro symbol member
  obtain ⟨dependency, found, includesAre⟩ := Option.map_eq_some_iff.mp includes
  obtain ⟨file, included, isToken⟩ := tokens symbol member
  exact ⟨"a.sty", by decide, dependency, found, file, includesAre ▸ included,
    Scanner.mem_tokensOf.mp isToken⟩

/-- Of the six names, one is the kernel's, one the host class's and one the package's below. -/
theorem Session.isCandidate_knot_iff (numbered : session.registry.Numbered)
    (includes : (session.memo.get? "a.sty").map Dependency.includes =
      some (["a.sty", "b.sty", "c.sty", "d.sty"].map File.sample))
    (reachable : (session.registry.reachable
      (Component.knot.references ++ Settings.sample.baseline.toList)).map Instance.component =
        [.below, .host]) :
    ∀ symbol ∈ ["art", "def", "dim", "knot", "low", "ring"],
      (session.IsCandidate Settings.sample .knot symbol ↔ symbol ∈ ["dim", "knot", "ring"]) := by
  have areFree : ∀ symbol ∈ ["art", "def", "dim", "knot", "low", "ring"],
      (¬Settings.sample.kernel.Defines symbol ∧
        ∀ component ∈ [Component.below, .host], ¬component.Defines symbol) ↔
      symbol ∈ ["dim", "knot", "ring"] := by
    decide
  intro symbol member
  rw [← areFree symbol member, ← reachable, IsCandidate,
    and_iff_right (Settings.sample_mentions includes symbol member)]
  simp only [List.forall_mem_map, Registry.mem_reachable_iff numbered]

/-- Of what the sources of the knot mention, exactly what is left is asked about, for the first
of its files, and the symbols of the knot are those that the transcript tags. -/
theorem sample_attribution_exact :
    ∃ session bound lead candidates text,
      Session.initial.run Settings.sample Operation.sample = some session ∧
      session.registry.get? "a.sty" = some bound ∧ bound.component = .knot ∧
      lead.name = "a.sty" ∧
      (∀ symbol ∈ ["art", "def", "dim", "knot", "low", "ring"],
        session.Mentions Settings.sample Component.knot.fileNames symbol ∧
          (symbol ∈ candidates.toList ↔ symbol ∈ ["dim", "knot", "ring"])) ∧
      Settings.sample.engine 0 ((Settings.sample.classifier 0).call lead candidates) =
        .transcript text ∧
      (Probe.readTagged text).commands.toList = ["ring"] ∧
      (Probe.readTagged text).environments.toList = ["knot"] := by
  obtain ⟨session, ran, _, knotAt, _, _, _, _, _, hostLoads, includes, reachable⟩ := run_sample
  obtain ⟨bound, held, isKnot⟩ := Option.map_eq_some_iff.mp knotAt
  have away := Component.knot_away hostLoads
  rw [← isKnot] at away
  obtain ⟨lead, candidates, isMember, isFirst, _, areCandidates, reported⟩ :=
    attribution_exact Settings.steady_sample Operation.onIndex_sample
      Operation.noOverride_sample ran held away
  rw [isKnot] at isMember isFirst areCandidates reported
  have isLead : lead.name = "a.sty" := by
    rcases List.mem_cons.mp isMember with isLead | isOther
    · exact isLead
    · have before := isFirst "a.sty" (by decide)
      rw [List.mem_singleton.mp isOther] at before
      exact absurd before (by decide)
  have numbered := (reachable_run ran).orderly.coherent.numbered
  have asked : ∀ symbol ∈ ["art", "def", "dim", "knot", "low", "ring"],
      (symbol ∈ candidates.toList ↔ symbol ∈ ["dim", "knot", "ring"]) := by
    intro symbol member
    rw [areCandidates, session.isCandidate_knot_iff numbered includes reachable symbol member]
  have something : ¬candidates.isEmpty = true := by
    intro empty
    have member := (asked "dim" (by decide)).mpr (List.mem_cons_self ..)
    rw [List.isEmpty_iff.mp empty] at member
    cases member
  rw [Settings.Reported, if_neg something] at reported
  obtain ⟨text, answered, commands, environments⟩ := reported
  exact ⟨session, bound, lead, candidates, text, ran, held, isKnot, isLead,
    fun symbol member => ⟨Settings.sample_mentions includes symbol member, asked symbol member⟩,
    answered, commands.symm, environments.symm⟩

end TexAtlas
