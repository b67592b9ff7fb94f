/-
Two sessions that went on from one session whose baseline was settled, each under an engine of
its own, where the engines concur about a set of files that no reference leaves. A file of the
set that both have settled refers in both to the same files, all of them settled in both, so
its group is the same, and, by induction along the references, so are the components that
count when its symbols are attributed. What else either session came across plays no part.
-/

import Mathlib.Data.Finset.Card
import TexAtlas.Proofs.Registry.Alike
import TexAtlas.Proofs.Scanner
import TexAtlas.Proofs.Session.Resolving

namespace TexAtlas

namespace Settings

/-- The same settings with another engine. -/
def withEngine (settings : Settings) (engine : Nat → Engine) : Settings :=
  { settings with engine := engine }

@[simp] theorem index_withEngine (settings : Settings) (engine : Nat → Engine) :
    (settings.withEngine engine).index = settings.index := rfl

@[simp] theorem baseline_withEngine (settings : Settings) (engine : Nat → Engine) :
    (settings.withEngine engine).baseline = settings.baseline := rfl

/-- What the engine lists for a file has a reference to a class or style. -/
def Refers (settings : Settings) (source target : String) : Prop :=
  target ∈ (settings.probeAt 0 (settings.index.resolve source)).referenceNames

/-- A chain of references leads from one file to another. -/
def Reaches (settings : Settings) : String → String → Prop :=
  Relation.ReflTransGen settings.Refers

/-- Another engine gives the same answers whenever one of the files is classified. -/
def ClassifiesAlike (settings : Settings) (engine : Nat → Engine) (members : List Dependency) :
    Prop :=
  ∀ lead ∈ members, ∀ asked other candidates,
    ((settings.withEngine engine).classifier other).classify lead.file candidates =
      (settings.classifier asked).classify lead.file candidates

/-- Another engine tells the same about every file of a set at any time, sources are always read
alike, and no reference leaves the set. -/
structure Concurs (settings : Settings) (engine : Nat → Engine) (inside : String → Prop) :
    Prop where
  probe : ∀ name, inside name → ∀ asked other,
    (settings.withEngine engine).probeAt other (settings.index.resolve name) =
      settings.probeAt asked (settings.index.resolve name)
  classify : ∀ name, inside name → ∀ asked other candidates,
    ((settings.withEngine engine).classifier other).classify (settings.index.resolve name)
        candidates =
      (settings.classifier asked).classify (settings.index.resolve name) candidates
  read : ∀ asked other, settings.read other = settings.read asked
  closed : ∀ source target, inside source → settings.Refers source target → inside target

variable {settings : Settings} {engine : Nat → Engine} {inside : String → Prop}

/-- A steady engine concurs with itself about all files. -/
theorem Steady.concurs (steady : settings.Steady) :
    settings.Concurs settings.engine (fun _ => True) := by
  refine ⟨?_, ?_, ?_, fun _ _ _ _ => trivial⟩
  · intro name _ asked other
    exact (steady.probeAt other _).trans (steady.probeAt asked _).symm
  · intro name _ asked other candidates
    change (settings.classifier other).classify _ _ = (settings.classifier asked).classify _ _
    rw [steady.classifier other, steady.classifier asked]
  · intro asked other
    rw [steady.read other, steady.read asked]

namespace Concurs

theorem symm (concurs : settings.Concurs engine inside) :
    (settings.withEngine engine).Concurs settings.engine inside := by
  refine ⟨?_, ?_, concurs.read, ?_⟩
  · exact fun name isInside asked other => (concurs.probe name isInside other asked).symm
  · exact fun name isInside asked other candidates =>
      (concurs.classify name isInside other asked candidates).symm
  · intro source target isInside refers
    refine concurs.closed source target isInside ?_
    unfold Refers at refers ⊢
    rw [← concurs.probe source isInside 0 0]
    exact refers

variable {memo other : Memo}

theorem inside_of_refers (concurs : settings.Concurs engine inside)
    (probed : memo.Probed settings) {source target : String} (isInside : inside source)
    (refers : memo.Refers source target) : inside target := by
  obtain ⟨dependency, found, member⟩ := refers
  obtain ⟨asked, rfl⟩ := probed.dependency found
  refine concurs.closed source target isInside ?_
  unfold Refers
  rw [← concurs.probe source isInside 0 0, concurs.probe source isInside asked 0]
  exact member

theorem inside_of_reaches (concurs : settings.Concurs engine inside)
    (probed : memo.Probed settings) {source target : String}
    (reaches : memo.Reaches source target) (isInside : inside source) : inside target :=
  reaches.stays (fun _ _ sourceInside refers =>
    concurs.inside_of_refers probed sourceInside refers) isInside

/-- Both sessions remember the same about a file of the set. -/
theorem unique (concurs : settings.Concurs engine inside) (probed : memo.Probed settings)
    (otherProbed : other.Probed (settings.withEngine engine)) {name : String}
    (isInside : inside name) {dependency different : Dependency}
    (found : memo.get? name = some dependency) (otherFound : other.get? name = some different) :
    dependency = different := by
  obtain ⟨asked, rfl⟩ := probed.dependency found
  obtain ⟨otherAsked, rfl⟩ := otherProbed.dependency otherFound
  exact (concurs.probe name isInside asked otherAsked).symm

theorem classifiesAlike (concurs : settings.Concurs engine inside)
    (probed : memo.Probed settings) {members : List Dependency} (group : memo.IsGroup members)
    (areInside : ∀ name ∈ members.map Dependency.name, inside name) :
    settings.ClassifiesAlike engine members := by
  intro lead present
  rw [probed.file (group.remembered lead present)]
  exact concurs.classify lead.name (areInside _ (List.mem_map_of_mem present))

theorem refers_shared (concurs : settings.Concurs engine inside) (probed : memo.Probed settings)
    (otherProbed : other.Probed (settings.withEngine engine)) {source target : String}
    (isInside : inside source) (known : other.contains source = true)
    (refers : memo.Refers source target) : other.Refers source target := by
  obtain ⟨dependency, found, member⟩ := refers
  obtain ⟨twin, twinFound⟩ := (NameMap.contains_iff other source).mp known
  rw [concurs.unique probed otherProbed isInside found twinFound] at member
  exact ⟨twin, twinFound, member⟩

end Concurs

end Settings

namespace Memo

variable {settings : Settings} {memo other : Memo}

/-- Induction along references: from what lies strictly below a file to the file itself. -/
theorem below_induction (memo : Memo) {holds : String → Prop}
    (step : ∀ name, (∀ below, memo.Reaches name below → ¬memo.Reaches below name →
      holds below) → holds name) (name : String) : holds name := by
  classical
  -- Fewer probed files are reached from strictly below.
  generalize size : (memo.keys.toFinset.filter (memo.Reaches name)).card = count
  induction count using Nat.strong_induction_on generalizing name with
  | _ count ih =>
      refine step name (fun below down notUp => ih _ ?_ below rfl)
      rw [← size]
      refine Finset.card_lt_card (Finset.ssubset_iff_subset_ne.mpr ⟨?_, ?_⟩)
      · intro key member
        obtain ⟨isKey, reached⟩ := Finset.mem_filter.mp member
        exact Finset.mem_filter.mpr ⟨isKey, down.trans reached⟩
      · intro same
        have probed : memo.contains name = true := by
          rcases down.cases_head with rfl | ⟨next, refers, _⟩
          · exact absurd .refl notUp
          · exact probed_of_refers refers
        have reached : name ∈ memo.keys.toFinset.filter (memo.Reaches name) :=
          Finset.mem_filter.mpr
            ⟨List.mem_toFinset.mpr ((NameMap.mem_keys_iff memo name).mpr probed), .refl⟩
        rw [← same] at reached
        exact notUp (Finset.mem_filter.mp reached).2

end Memo

/-! ### Answers -/

/-- The answer about a group depends on nothing but the components that count, also under an
engine that concurs about its files. -/
theorem IsAnswer.shared {settings : Settings} {engine : Nat → Engine}
    {members : List Dependency} {reached others : List Component}
    {answer different : Outcome (Except Probe.ClassifyError Probe.Classification)}
    (read : ∀ asked other, settings.read other = settings.read asked)
    (classify : settings.ClassifiesAlike engine members)
    (answered : IsAnswer settings members reached answer)
    (otherwise : IsAnswer (settings.withEngine engine) members others different)
    (same : ∀ component, component ∈ reached ↔ component ∈ others) : answer = different := by
  obtain ⟨lead, rest, scannedAt, askedAt, membersAre, answerIs⟩ := answered
  obtain ⟨otherLead, otherRest, otherScan, otherAsk, otherMembers, otherIs⟩ := otherwise
  rw [membersAre] at otherMembers
  cases otherMembers
  have scanned : (settings.withEngine engine).scanner otherScan = settings.scanner scannedAt := by
    change ({ grammar := settings.grammar, read := settings.read otherScan } : Scanner) = _
    rw [read scannedAt otherScan]
    rfl
  rw [answerIs, otherIs, scanned,
    classify lead (membersAre ▸ List.mem_cons_self ..) askedAt otherAsk]
  exact congrArg _ (Scanner.candidates_congr _ _ _ same)

theorem IsAnswer.unique {settings : Settings} (steady : settings.Steady)
    {members : List Dependency} {reached others : List Component}
    {answer different : Outcome (Except Probe.ClassifyError Probe.Classification)}
    (answered : IsAnswer settings members reached answer)
    (otherwise : IsAnswer settings members others different)
    (same : ∀ component, component ∈ reached ↔ component ∈ others) : answer = different := by
  have otherAnswer : IsAnswer (settings.withEngine settings.engine) members others different :=
    otherwise
  refine answered.shared steady.concurs.read ?_ otherAnswer same
  intro lead _ asked other candidates
  change (settings.classifier other).classify _ _ = (settings.classifier asked).classify _ _
  rw [steady.classifier other, steady.classifier asked]

namespace Registry

variable {registry other : Registry}

theorem Follows.alike {members : List Dependency}
    {answer : Outcome (Except Probe.ClassifyError Probe.Classification)}
    (follows : registry.Follows members answer) (otherFollows : other.Follows members answer)
    {name : String} (inside : name ∈ members.map Dependency.name) :
    registry.AlikeOn other name := by
  have dropped : registry.Drops members → other.Drops members → registry.AlikeOn other name := by
    intro drops otherDrops
    obtain ⟨unbound, skipped⟩ := drops name inside
    obtain ⟨otherUnbound, otherSkipped⟩ := otherDrops name inside
    exact ⟨otherSkipped.trans skipped.symm, by rw [unbound, otherUnbound]⟩
  rcases answer with (error | classification) | panic
  · exact dropped follows otherFollows
  · obtain ⟨bound, component, held⟩ := follows
    obtain ⟨twin, twinComponent, twinHeld⟩ := otherFollows
    refine ⟨(twinHeld name inside).2.trans (held name inside).2.symm, ?_⟩
    rw [(held name inside).1, (twinHeld name inside).1, Option.map_some, Option.map_some,
      component, twinComponent]
  · exact dropped follows otherFollows

theorem AgreesOn.alike {name : String} (agree : registry.AgreesOn other name) :
    registry.AlikeOn other name :=
  ⟨agree.2, by rw [agree.1]⟩

end Registry

/-! ### What two sessions have in common -/

section

variable {settings : Settings} {engine : Nat → Engine} {inside : String → Prop}
  {left right : Session}

/-- From a file that is settled in the other session the same files are reached there, and
they are settled too. -/
theorem Sound.reaches_shared (sound : Sound settings left)
    (concurs : settings.Concurs engine inside)
    (otherSound : Sound (settings.withEngine engine) right) {source target : String}
    (isInside : inside source)
    (reaches : Memo.Reaches left.memo source target)
    (settled : right.registry.isSettled source = true) :
    Memo.Reaches right.memo source target ∧ right.registry.isSettled target = true := by
  induction reaches with
  | refl => exact ⟨.refl, settled⟩
  | tail reaches refers ih =>
      have shared := concurs.refers_shared sound.probed otherSound.probed
        (concurs.inside_of_reaches sound.probed reaches isInside)
        (otherSound.coherent.probed_of_settled ih.2) refers
      exact ⟨ih.1.tail shared, otherSound.coherent.closed _ _ ih.2 shared⟩

theorem Sound.group_shared (sound : Sound settings left)
    (concurs : settings.Concurs engine inside)
    (otherSound : Sound (settings.withEngine engine) right) {members : List Dependency}
    (group : Memo.IsGroup left.memo members)
    (areInside : ∀ name ∈ members.map Dependency.name, inside name)
    (settled : ∀ name ∈ members.map Dependency.name, left.registry.isSettled name = true)
    (otherSettled : ∀ name ∈ members.map Dependency.name, right.registry.isSettled name = true) :
    Memo.IsGroup right.memo members := by
  refine ⟨group.nonempty, group.ascending, ?_, ?_⟩
  · intro member present
    have inGroup := List.mem_map_of_mem (f := Dependency.name) present
    obtain ⟨twin, twinFound⟩ := (NameMap.contains_iff _ _).mp
      (otherSound.coherent.probed_of_settled (otherSettled _ inGroup))
    rw [twinFound, concurs.unique sound.probed otherSound.probed (areInside _ inGroup)
      (group.remembered member present) twinFound]
  · intro member present name
    have inGroup := List.mem_map_of_mem (f := Dependency.name) present
    have isInside := areInside _ inGroup
    rw [group.exact member present]
    constructor
    · intro both
      have nameInGroup := (group.exact member present name).mpr both
      exact ⟨(sound.reaches_shared concurs otherSound isInside both.1
          (otherSettled _ inGroup)).1,
        (sound.reaches_shared concurs otherSound (areInside _ nameInGroup) both.2
          (otherSettled _ nameInGroup)).1⟩
    · intro both
      obtain ⟨forth, nameSettled⟩ := otherSound.reaches_shared concurs.symm sound isInside both.1
        (settled _ inGroup)
      have nameInside := concurs.inside_of_reaches sound.probed forth isInside
      exact ⟨forth, (otherSound.reaches_shared concurs.symm sound nameInside both.2
        nameSettled).1⟩

end

/-- A session that went on from another one. -/
structure Continues (settings : Settings) (ready session : Session) : Prop where
  sound : Sound settings session
  attributed : Attributed settings session
  later : Later ready session

section

variable {settings : Settings} {engine : Nat → Engine} {inside : String → Prop}
  {ready left right : Session}

/-- When a group is settled after the baseline was, all baseline files of the index count. -/
theorem Continues.hosts_complete (goesOn : Continues settings ready left)
    (coherent : Coherent ready.memo ready.registry []) (baseline : BaselineSettled settings ready)
    {members : List Dependency} {hosts : List String} {reached : List Component}
    {answer : Outcome (Except Probe.ClassifyError Probe.Classification)}
    (attribution : Attribution settings left members hosts reached answer) {name : String}
    (inGroup : name ∈ members.map Dependency.name)
    (notSettled : ready.registry.isSettled name = false) (host : String) :
    host ∈ hosts ↔ IsHost settings host := by
  refine ⟨fun member => (attribution.hostsAre host member).1, fun isHost => ?_⟩
  rcases attribution.complete with all | ⟨above, aboveIsHost, leadsTo⟩
  · exact all host isHost
  · have wasSettled := ((leadsTo name inGroup).back goesOn.later.within
      (fun _ settled => coherent.probed_of_settled settled) coherent.closed
      (baseline above aboveIsHost)).2
    rw [notSettled] at wasSettled
    cases wasSettled

/-- The files below a group that both sessions have settled, and those settled before either
of them, make up a set that nothing leaves. -/
theorem Continues.alike_below (leftGoesOn : Continues settings ready left)
    (rightGoesOn : Continues (settings.withEngine engine) ready right)
    (coherent : Coherent ready.memo ready.registry []) {name : String}
    (alike : ∀ below, Memo.Reaches left.memo name below → ¬Memo.Reaches left.memo below name →
      left.registry.AlikeOn right.registry below) :
    Registry.AlikeWithin (fun other => ready.registry.isSettled other = true ∨
        Memo.Reaches left.memo name other ∧ ¬Memo.Reaches left.memo other name)
      left.registry right.registry := by
  refine ⟨?_, ?_⟩
  · rintro other (settled | ⟨down, notUp⟩)
    · exact (leftGoesOn.later.keeps other settled).alike.symm.trans
        (rightGoesOn.later.keeps other settled).alike
    · exact alike other down notUp
  · rintro other bound (settled | ⟨down, notUp⟩) held reference member
    · rw [(leftGoesOn.later.keeps other settled).1] at held
      exact Or.inl (coherent.settled_of_reference held member)
    · obtain ⟨_, members, group, inGroup, holds⟩ := leftGoesOn.sound.coherent.holds_of_bound held
      rw [holds.references] at member
      obtain ⟨source, sourceInGroup, refers⟩ := group.refers_of_outward member
      have chain := ((group.exact_name inGroup source).mp sourceInGroup).1.tail refers
      exact Or.inr ⟨down.trans chain, fun up => notUp (chain.trans up)⟩

/-- Where two sessions are alike below a group, the same components counted for it. -/
theorem Continues.counted_iff (leftGoesOn : Continues settings ready left)
    (rightGoesOn : Continues (settings.withEngine engine) ready right)
    (coherent : Coherent ready.memo ready.registry [])
    (baseline : BaselineSettled settings ready) {members : List Dependency}
    (group : Memo.IsGroup left.memo members) {name : String}
    (inGroup : name ∈ members.map Dependency.name)
    (notSettled : ready.registry.isSettled name = false)
    (alike : ∀ below, Memo.Reaches left.memo name below → ¬Memo.Reaches left.memo below name →
      left.registry.AlikeOn right.registry below)
    {hosts otherHosts : List String} {reached otherReached : List Component}
    {answer otherAnswer : Outcome (Except Probe.ClassifyError Probe.Classification)}
    (attribution : Attribution settings left members hosts reached answer)
    (otherAttribution : Attribution (settings.withEngine engine) right members otherHosts
      otherReached otherAnswer)
    (component : Component) : component ∈ reached ↔ component ∈ otherReached := by
  have hostIff := leftGoesOn.hosts_complete coherent baseline attribution inGroup notSettled
  have otherHostIff :=
    rightGoesOn.hosts_complete coherent baseline otherAttribution inGroup notSettled
  have within := leftGoesOn.alike_below rightGoesOn coherent alike
  rw [attribution.surveyed component, otherAttribution.surveyed component]
  refine within.component_iff ?_ ?_ component
  · intro root member
    rcases List.mem_append.mp member with outward | isHost
    · obtain ⟨source, sourceInGroup, refers⟩ := group.refers_of_outward outward
      have down := ((group.exact_name inGroup source).mp sourceInGroup).1.tail refers
      have notMember := ((Component.mem_outwardReferences members root).mp outward).2
      exact Or.inr ⟨down, fun up => notMember ((group.exact_name inGroup root).mpr ⟨down, up⟩)⟩
    · exact Or.inl (baseline root ((hostIff root).mp isHost))
  · intro root
    rw [List.mem_append, List.mem_append, hostIff, otherHostIff]
    rfl

/-- Two sessions that went on from one whose baseline was settled are alike on every file that
both have settled and about which their engines concur. -/
theorem Continues.alike (leftGoesOn : Continues settings ready left)
    (concurs : settings.Concurs engine inside)
    (rightGoesOn : Continues (settings.withEngine engine) ready right)
    (coherent : Coherent ready.memo ready.registry [])
    (baseline : BaselineSettled settings ready) :
    ∀ name, inside name → left.registry.isSettled name = true →
      right.registry.isSettled name = true → left.registry.AlikeOn right.registry name := by
  have leftSound := leftGoesOn.sound
  have rightSound := rightGoesOn.sound
  refine Memo.below_induction left.memo ?_
  intro name ih isInside inLeft inRight
  cases notSettled : ready.registry.isSettled name with
  | true =>
      exact (leftGoesOn.later.keeps name notSettled).alike.symm.trans
        (rightGoesOn.later.keeps name notSettled).alike
  | false =>
      obtain ⟨members, group, inGroup, settles⟩ := leftSound.coherent.grouped name inLeft
      have settledLeft : ∀ other ∈ members.map Dependency.name,
          left.registry.isSettled other = true := fun other => settles.isSettled
      -- Whatever the file reaches is settled in both sessions, its own group and what is below.
      have reachedRight : ∀ other, Memo.Reaches left.memo name other →
          Memo.Reaches right.memo name other ∧ right.registry.isSettled other = true :=
        fun other down => leftSound.reaches_shared concurs rightSound isInside down inRight
      have inGroupReached : ∀ other ∈ members.map Dependency.name,
          Memo.Reaches left.memo name other := fun other otherInGroup =>
        ((group.exact_name inGroup other).mp otherInGroup).1
      have groupInside : ∀ other ∈ members.map Dependency.name, inside other :=
        fun other otherInGroup => concurs.inside_of_reaches leftSound.probed
          (inGroupReached other otherInGroup) isInside
      have settledRight : ∀ other ∈ members.map Dependency.name,
          right.registry.isSettled other = true := fun other otherInGroup =>
        (reachedRight other (inGroupReached other otherInGroup)).2
      have alikeBelow : ∀ below, Memo.Reaches left.memo name below →
          ¬Memo.Reaches left.memo below name → left.registry.AlikeOn right.registry below := by
        intro below down notUp
        obtain ⟨downRight, belowRight⟩ := reachedRight below down
        have belowLeft :=
          (rightSound.reaches_shared concurs.symm leftSound isInside downRight inLeft).2
        have belowInside := concurs.inside_of_reaches leftSound.probed down isInside
        exact ih below down notUp belowInside belowLeft belowRight
      have rightGroup :=
        leftSound.group_shared concurs rightSound group groupInside settledLeft settledRight
      obtain ⟨hosts, reached, answer, attribution⟩ :=
        leftGoesOn.attributed members group settledLeft
      obtain ⟨otherHosts, otherReached, otherAnswer, otherAttribution⟩ :=
        rightGoesOn.attributed members rightGroup settledRight
      have counted := leftGoesOn.counted_iff rightGoesOn coherent baseline group inGroup
        notSettled alikeBelow attribution otherAttribution
      have classify := concurs.classifiesAlike leftSound.probed group groupInside
      have sameAnswer :=
        attribution.isAnswer.shared concurs.read classify otherAttribution.isAnswer counted
      rw [← sameAnswer] at otherAttribution
      exact attribution.follows.alike otherAttribution.follows inGroup

end

end TexAtlas
