/-
No symbol is attributed twice. A component is classified only after everything it refers to
is settled, and what is settled never changes; so the symbols left out of the question are
those of everything that the component ever reaches.
-/

import TexAtlas.Proofs.Probe.Classifier
import TexAtlas.Proofs.Scanner
import TexAtlas.Proofs.Session.Runs

namespace TexAtlas

variable {settings : Settings} {session : Session}

/-- Transcripts of classification documents tag no names but those that were asked about. -/
def Settings.TagsOnlyAsked (settings : Settings) : Prop :=
  ∀ asked file candidates text,
    settings.engine asked ((settings.classifier asked).call file candidates) =
      .transcript text →
    ∀ symbol, symbol ∈ (Probe.readTagged text).commands.toList ∨
      symbol ∈ (Probe.readTagged text).environments.toList → symbol ∈ candidates.toList

theorem Settings.TagsOnlyAsked.mem_candidates (onlyAsked : settings.TagsOnlyAsked) {asked : Nat}
    {file : File} {candidates : SortedNames} {classification : Probe.Classification}
    (classified : (settings.classifier asked).classify file candidates =
      .value (.ok classification)) {symbol : String}
    (confirmed : symbol ∈ classification.commands.toList ∨
      symbol ∈ classification.environments.toList) : symbol ∈ candidates.toList := by
  unfold Probe.Classifier.classify at classified
  split at classified
  · cases classified
    rcases confirmed with impossible | impossible
    · cases impossible
    · cases impossible
  · split at classified
    · rename_i text answered
      cases classified
      exact onlyAsked asked file candidates text answered symbol confirmed
    · cases classified
    · cases classified

/-- The symbols of an attributed component are none of the kernel's and of no component that
was taken into account. -/
theorem Attribution.symbols_free {members : List Dependency} {hosts : List String}
    {reached : List Component}
    {answer : Outcome (Except Probe.ClassifyError Probe.Classification)}
    (attribution : Attribution settings session members hosts reached answer)
    (onlyAsked : settings.TagsOnlyAsked) {name : String}
    (inside : name ∈ members.map Dependency.name) {bound : Instance}
    (held : session.registry.get? name = some bound) {symbol : String}
    (defined : bound.component.Defines symbol) :
    ¬settings.kernel.Defines symbol ∧ ∀ component ∈ reached, ¬component.Defines symbol := by
  obtain ⟨classification, rfl, component⟩ :=
    attribution.follows.classified_of_held inside held
  obtain ⟨lead, rest, scannedAt, askedAt, _, answerIs⟩ := attribution.isAnswer
  rw [component] at defined
  have confirmed : symbol ∈ classification.commands.toList ∨
      symbol ∈ classification.environments.toList :=
    defined.imp (NameSet.mem_ofList _ symbol).mp (NameSet.mem_ofList _ symbol).mp
  exact (Scanner.mem_candidates.mp (onlyAsked.mem_candidates answerIs.symm confirmed)).2

/-- Two components have no command and no environment in common, whichever of the two a name
is on either side. -/
def Component.ApartFrom (component other : Component) : Prop :=
  ∀ symbol, component.Defines symbol → ¬other.Defines symbol

/-- After any run without overrides, the symbols of a component are none of the kernel's, of
no component to which its references lead, and, unless a baseline file reaches it, of no
component to which the baseline leads. -/
theorem symbols_attributed_once {operations : List Operation}
    (onlyAsked : settings.TagsOnlyAsked)
    (onIndex : ∀ operation ∈ operations, operation.OnIndex settings)
    (noOverride : ∀ operation ∈ operations, operation.isOverride = false)
    (ran : Session.initial.run settings operations = some session) {name : String}
    {bound : Instance} (held : session.registry.get? name = some bound) :
    (∀ symbol, bound.component.Defines symbol → ¬settings.kernel.Defines symbol) ∧
    (∀ other, session.registry.Leads bound.component.references other →
      bound.component.ApartFrom other.component) ∧
    ((∀ host ∈ settings.baseline.toList, ∀ member ∈ bound.component.fileNames,
        ¬Memo.Reaches session.memo host member) →
      ∀ other, session.registry.Leads settings.baseline.toList other →
        bound.component.ApartFrom other.component) := by
  have advance := advance_run (Sound.initial settings) onIndex noOverride ran
  have coherent := advance.sound.coherent
  obtain ⟨_, members, group, inside, holds⟩ := coherent.holds_of_bound held
  have settles : session.registry.Settles members := Or.inl ⟨bound, holds⟩
  obtain ⟨hosts, reached, answer, attribution⟩ := advance.attributed (attributed_initial settings)
    members group (fun other otherInside => settles.isSettled otherInside)
  have free := fun symbol (defined : bound.component.Defines symbol) =>
    attribution.symbols_free onlyAsked inside held defined
  have apart : ∀ roots other, (∀ root ∈ roots, session.registry.contains root = true →
      root ∈ Component.outwardReferences members ++ hosts) →
      session.registry.Leads roots other → bound.component.ApartFrom other.component := by
    intro roots other included leads symbol defined
    have counted : session.registry.Leads (Component.outwardReferences members ++ hosts) other := by
      refine leads.within ?_ (fun _ led _ member _ heldThere => .step led member heldThere)
      intro root member found rootHeld
      exact .root (included root member ((Registry.contains_iff _ root).mpr ⟨found, rootHeld⟩))
        rootHeld
    exact (free symbol defined).2 other.component
      ((attribution.surveyed other.component).mpr ⟨other, counted, rfl⟩)
  refine ⟨fun symbol defined => (free symbol defined).1, ?_, ?_⟩
  · intro other leads
    refine apart _ other ?_ leads
    intro root member _
    rw [holds.references] at member
    exact List.mem_append_left hosts member
  · intro notReached other leads
    refine apart _ other ?_ leads
    intro root inBaseline isBound
    refine List.mem_append_right _ ?_
    rcases attribution.complete with all | ⟨host, isHost, leadsTo⟩
    · obtain ⟨rootBound, rootHeld⟩ := (Registry.contains_iff _ root).mp isBound
      exact all root ⟨inBaseline, advance.sound.hostsIndexed root inBaseline
        (coherent.holds_of_bound rootHeld).1⟩
    · refine absurd (leadsTo name inside) (notReached host isHost.1 name ?_)
      rw [holds.fileNames]
      exact inside

theorem Settings.tagsOnlyAsked_sample : Settings.sample.TagsOnlyAsked := by
  intro asked file candidates text answered symbol tagged
  have untagged : ∀ other ∈ ["*File List*\nb.sty\nc.sty\nd.sty\n", "*File List*\na.sty\n",
      "*File List*\n"], Probe.readTagged other = .empty := by
    decide +kernel
  have nothing : Probe.readTagged text ≠ .empty := by
    intro empty
    rw [empty] at tagged
    rcases tagged with impossible | impossible
    · cases impossible
    · cases impossible
  -- The other replies are to documents that say what they ask about.
  have about : ∀ (other : File) (names : SortedNames),
      Probe.classificationDocument file candidates = Probe.classificationDocument other names →
      ('\n' ∉ other.stem.toList ∧ (∀ name ∈ names.toList, '\n' ∉ name.toList) ∧
        names.toList.length < 5) →
      (∀ name ∈ (Probe.readTagged text).commands.toList ++
        (Probe.readTagged text).environments.toList, name ∈ names.toList) →
      symbol ∈ candidates.toList := by
    rintro other names sameDocument ⟨stemOneLine, oneLine, few⟩ areAsked
    rw [Probe.candidates_of_document stemOneLine oneLine few sameDocument]
    exact areAsked symbol (List.mem_append.mpr tagged)
  rcases Engine.mem_of_ofReplies answered with replied | rfl
  · simp only [List.mem_cons, Prod.mk.injEq, Reply.transcript.injEq, reduceCtorEq, and_false,
      List.not_mem_nil, or_false, false_or] at replied
    rcases replied with ⟨_, rfl⟩ | ⟨_, rfl⟩ | ⟨document, rfl⟩ | ⟨document, rfl⟩ | ⟨document, rfl⟩
    · exact absurd (untagged _ (by simp)) nothing
    · exact absurd (untagged _ (by simp)) nothing
    · exact about _ _ document (by decide +kernel) (by decide +kernel)
    · exact about _ _ document (by decide +kernel) (by decide +kernel)
    · exact about _ _ document (by decide +kernel) (by decide +kernel)
  · exact absurd (untagged _ (by simp)) nothing

/-- The knot has symbols of its own, and mentions one of the kernel, one of the package below it
and one of the host class. -/
theorem sample_symbols_attributed_once :
    ∃ session bound below host,
      Session.initial.run Settings.sample Operation.sample = some session ∧
      session.registry.get? "a.sty" = some bound ∧ bound.component = .knot ∧
      session.registry.Leads bound.component.references below ∧ below.component = .below ∧
      session.registry.Leads Settings.sample.baseline.toList host ∧ host.component = .host ∧
      Settings.sample.kernel.Defines "def" ∧
      (∀ symbol, bound.component.Defines symbol → ¬Settings.sample.kernel.Defines symbol) ∧
      bound.component.ApartFrom below.component ∧ bound.component.ApartFrom host.component := by
  obtain ⟨session, ran, _, knotAt, hostAt, belowAt, _, _, _, hostLoads, _⟩ := run_sample
  obtain ⟨bound, held, isKnot⟩ := Option.map_eq_some_iff.mp knotAt
  obtain ⟨host, hostHeld, isHost⟩ := Option.map_eq_some_iff.mp hostAt
  obtain ⟨below, belowHeld, isBelow⟩ := Option.map_eq_some_iff.mp belowAt
  obtain ⟨free, apart, apartFromHosts⟩ := symbols_attributed_once Settings.tagsOnlyAsked_sample
    Operation.onIndex_sample Operation.noOverride_sample ran held
  have leadsBelow : session.registry.Leads bound.component.references below := by
    refine .root ?_ belowHeld
    rw [isKnot]
    decide
  have leadsHost : session.registry.Leads Settings.sample.baseline.toList host := by
    refine .root ?_ hostHeld
    rw [Settings.baseline_sample]
    exact List.mem_singleton_self _
  have away := Component.knot_away hostLoads
  rw [← isKnot] at away
  exact ⟨session, bound, below, host, ran, held, isKnot, leadsBelow, isBelow, leadsHost, isHost,
    by decide, free, apart below leadsBelow, apartFromHosts away host leadsHost⟩

end TexAtlas
