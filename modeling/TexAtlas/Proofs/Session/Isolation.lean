/-
Failures are isolated. Two engines that answer alike about whatever a file and the baseline
lead to may differ in any way about other files: the baseline is settled by the same steps, and
in the end the file has fared alike. A discovery asks about nothing but what its entry leads to,
and a task asks about nothing but its own group.
-/

import TexAtlas.Proofs.Session.Completion
import TexAtlas.Proofs.Session.Lockstep
import TexAtlas.Proofs.Session.OrderIndependence

namespace TexAtlas

variable {settings : Settings} {engine : Nat → Engine} {inside : String → Prop}
  {session : Session}

/-! ### Discoveries that stay in the set -/

namespace Session

theorem probeWave_withEngine (concurs : settings.Concurs engine inside) (session : Session)
    {files : List File} (resolved : ∀ file ∈ files, settings.IsResolved file ∧ inside file.name) :
    session.probeWave (settings.withEngine engine) files = session.probeWave settings files := by
  have memoIs : (session.probeWave (settings.withEngine engine) files).memo =
      (session.probeWave settings files).memo := by
    rw [memo_probeWave, memo_probeWave]
    refine congrArg (List.foldl remember session.memo) (List.map_congr_left ?_)
    rintro ⟨file, earlier⟩ member
    obtain ⟨isResolved, isInside⟩ :=
      resolved file (List.mem_filter.mp (List.fst_mem_of_mem_zipIdx member)).1
    change (settings.withEngine engine).probeAt _ file = settings.probeAt _ file
    rw [isResolved]
    exact concurs.probe file.name isInside _ _
  exact congrArg (fun memo => { session.note ((session.pendingFiles files).map Event.listed) with
    memo := memo }) memoIs

theorem grow_withEngine (concurs : settings.Concurs engine inside) {registry : Registry}
    {entry : String} {waves : Nat} {waiting : List File} {nodes : NameMap Dependency}
    (growing : Growing settings settings.IsResolved registry entry nodes waiting session)
    (isInside : inside entry) :
    session.grow (settings.withEngine engine) waves waiting nodes =
      session.grow settings waves waiting nodes := by
  induction waves generalizing waiting nodes session with
  | zero => cases waiting <;> rfl
  | succ waves ih =>
      cases waiting with
      | nil => rfl
      | cons file files =>
          have probed := probeWave_withEngine concurs session (fun file waits =>
            ⟨growing.waitingAdmitted file waits, concurs.inside_of_reaches growing.probed
              (growing.waitingReached file waits) isInside⟩)
          unfold grow
          rw [probed]
          exact ih growing.wave.2

theorem cluster_withEngine (concurs : settings.Concurs engine inside)
    (sound : Sound settings session) {entry : File} (isResolved : settings.IsResolved entry)
    (isOpen : session.registry.IsOpen entry.name) (isInside : inside entry.name) :
    session.cluster (settings.withEngine engine) entry = session.cluster settings entry := by
  have begun := Growing.start sound.probed (fun _ isResolved => isResolved) isResolved isOpen
  unfold cluster discoverClosure
  rw [grow_withEngine concurs begun isInside]
  rfl

end Session

/-! ### Tasks that ask about the set only -/

namespace GroupTask

theorem step_withEngine {task : GroupTask} (alike : settings.ClassifiesAlike engine task.members) :
    task.step (settings.withEngine engine) session = task.step settings session := by
  obtain ⟨members, phase⟩ := task
  cases phase with
  | waiting => cases members <;> rfl
  | surveyed reached => cases members <;> rfl
  | scanned candidates =>
      cases members with
      | nil => rfl
      | cons lead rest =>
          rw [step_scanned_eq, step_scanned_eq]
          rw [alike lead (List.mem_cons_self ..) session.asked session.asked]
  | marking classification unmarked =>
      cases unmarked <;> cases members <;> rfl
  | binding bound unbound => cases unbound <;> cases members <;> rfl
  | sealing bound unsealed => cases unsealed <;> cases members <;> rfl
  | finished result => cases members <;> rfl

end GroupTask

namespace Session

theorem followSchedule_withEngine {tasks : List GroupTask}
    (alike : ∀ task ∈ tasks, settings.ClassifiesAlike engine task.members)
    (schedule : List Nat) :
    session.followSchedule (settings.withEngine engine) schedule tasks =
      session.followSchedule settings schedule tasks := by
  induction schedule generalizing tasks session with
  | nil => rfl
  | cons number schedule ih =>
      have stepped : session.stepTask (settings.withEngine engine) number tasks =
          session.stepTask settings number tasks := by
        unfold stepTask
        cases held : tasks[number]? with
        | none => rfl
        | some task =>
            simp only [GroupTask.step_withEngine (alike task (List.mem_of_getElem? held))]
      unfold followSchedule
      rw [stepped]
      refine ih ?_
      -- A step does not change which files a task is about.
      intro task member
      cases held : tasks[number]? with
      | none =>
          rw [held] at member
          exact alike task member
      | some moved =>
          rw [held] at member
          rcases List.mem_or_eq_of_mem_set member with before | rfl
          · exact alike task before
          · rw [GroupTask.members_step]
            exact alike moved (List.mem_of_getElem? held)

theorem attributeLevel_withEngine {layer : List (List Dependency)}
    (alike : ∀ members ∈ layer, settings.ClassifiesAlike engine members) (schedule : List Nat)
    (session : Session) :
    session.attributeLevel (settings.withEngine engine) schedule layer =
      session.attributeLevel settings schedule layer := by
  have started : ∀ task ∈ layer.map GroupTask.start,
      settings.ClassifiesAlike engine task.members := by
    intro task member
    obtain ⟨members, isGroup, rfl⟩ := List.mem_map.mp member
    exact alike members isGroup
  have ran : session.runTasks (settings.withEngine engine) schedule layer =
      session.runTasks settings schedule layer := by
    rw [runTasks_eq_followSchedule, runTasks_eq_followSchedule,
      followSchedule_withEngine started, followSchedule_withEngine started]
  unfold attributeLevel
  rw [ran]

theorem attributeLevels_withEngine {layers : List (List (List Dependency))}
    (alike : ∀ layer ∈ layers, ∀ members ∈ layer, settings.ClassifiesAlike engine members) :
    session.attributeLevels (settings.withEngine engine) layers =
      session.attributeLevels settings layers := by
  induction layers generalizing session with
  | nil => rfl
  | cons layer layers ih =>
      change (session.attributeLevel (settings.withEngine engine) (scheduleOf settings layer)
          layer).attributeLevels (settings.withEngine engine) layers = _
      rw [attributeLevel_withEngine (alike layer (List.mem_cons_self ..))]
      exact ih (fun other later => alike other (List.mem_cons_of_mem layer later))

theorem attributeClustering_withEngine {clustering : Clustering}
    (alike : ∀ layer ∈ clustering.byLevel, ∀ members ∈ layer,
      settings.ClassifiesAlike engine members) (session : Session) :
    session.attributeClustering (settings.withEngine engine) clustering =
      session.attributeClustering settings clustering := by
  unfold attributeClustering
  rw [attributeLevels_withEngine alike]

end Session

/-! ### The baseline is settled by the same steps -/

theorem ClosureReady.classifiesAlike {entry : String} {clustering : Clustering} {grown : Session}
    (ready : ClosureReady settings settings.IsResolved session entry clustering grown)
    (concurs : settings.Concurs engine inside) (isInside : inside entry) :
    ∀ layer ∈ clustering.byLevel, ∀ members ∈ layer, settings.ClassifiesAlike engine members := by
  intro layer member members isGroup
  refine concurs.classifiesAlike ready.probed (ready.layers.layered.groups layer member members
    isGroup) ?_
  intro name inGroup
  refine concurs.inside_of_reaches ready.probed (ready.reached name ?_) isInside
  exact (Clustering.mem_namesOf _ name).mpr
    ⟨members, List.mem_flatten.mpr ⟨layer, member, isGroup⟩, inGroup⟩

namespace Session

theorem resolveClosure_withEngine (concurs : settings.Concurs engine inside)
    (sound : Sound settings session) {file : File} (indexed : file ∈ settings.index.files)
    (isInside : inside file.name) :
    session.resolveClosure (settings.withEngine engine) file =
      session.resolveClosure settings file := by
  have isResolved := (FileIndex.resolve_of_mem indexed).symm
  unfold resolveClosure
  cases unbound : session.registry.get? file.name with
  | some known => simp only
  | none =>
      cases notSkipped : session.registry.isSkipped file.name with
      | true => simp only [if_true]
      | false =>
          have isOpen := sound.coherent.open_of_unbound unbound notSkipped
          simp only [Bool.false_eq_true, if_false]
          rw [cluster_withEngine concurs sound isResolved isOpen isInside]
          refine Option.map_congr ?_
          rintro ⟨clustering, grown⟩ clustered
          have ready := sound.cluster isResolved isOpen clustered
          rw [attributeClustering_withEngine (ready.classifiesAlike concurs isInside)]

theorem resolveBaselineFile_withEngine (concurs : settings.Concurs engine inside)
    (hosts : ∀ host, IsHost settings host → inside host) (sound : Sound settings session)
    {name : String} (inBaseline : name ∈ settings.baseline.toList) :
    session.resolveBaselineFile (settings.withEngine engine) name =
      session.resolveBaselineFile settings name := by
  unfold resolveBaselineFile
  split
  · rfl
  · rw [Settings.index_withEngine]
    cases known : settings.index.lookup name with
    | none => rfl
    | some file =>
        obtain ⟨indexed, rfl⟩ := FileIndex.mem_of_lookup known
        have isInside := hosts file.name ⟨inBaseline, contains_of_mem_index indexed⟩
        simp only [resolveClosure_withEngine concurs sound indexed isInside]

/-- Where the engines concur about what the baseline leads to, either of them leaves the same
session behind when the baseline is resolved. -/
theorem resolveBaseline_withEngine (concurs : settings.Concurs engine inside)
    (hosts : ∀ host, IsHost settings host → inside host) (sound : Sound settings session) :
    session.resolveBaseline (settings.withEngine engine) = session.resolveBaseline settings := by
  have folded : ∀ names : List String, (∀ name ∈ names, name ∈ settings.baseline.toList) →
      ∀ session, Sound settings session →
        names.foldlM (resolveBaselineFile (settings.withEngine engine)) session =
          names.foldlM (resolveBaselineFile settings) session := by
    intro names
    induction names with
    | nil =>
        intro _ session _
        rw [List.foldlM_nil, List.foldlM_nil]
    | cons name names ih =>
        intro inBaseline session sound
        have nameIn := inBaseline name (List.mem_cons_self ..)
        rw [List.foldlM_cons, List.foldlM_cons,
          resolveBaselineFile_withEngine concurs hosts sound nameIn]
        refine Option.bind_congr ?_
        intro next stepped
        exact ih (fun other later => inBaseline other (List.mem_cons_of_mem name later)) next
          (resolveBaselineFile_advance sound nameIn stepped).1.sound
  unfold resolveBaseline
  rw [Settings.baseline_withEngine]
  exact folded settings.baseline.toList (fun _ member => member) session sound

end Session

/-! ### What a file and the baseline lead to -/

namespace Probe

/-- A probe asks about its own file only. -/
theorem Lister.probe_withEngine (lister : Lister) {engine : Engine} {file : File}
    (same : engine (lister.call file) = lister.engine (lister.call file)) :
    ({ lister with engine := engine } : Lister).probe file = lister.probe file := by
  have discovered : ({ lister with engine := engine } : Lister).discover file =
      lister.discover file := by
    have answered : ({ lister with engine := engine } : Lister).engine
        (({ lister with engine := engine } : Lister).call file) =
          lister.engine (lister.call file) := same
    unfold Lister.discover
    rw [answered]
    cases lister.engine (lister.call file) <;> rfl
  rw [Lister.probe, Lister.probe, discovered]

/-- A classification asks about its own file and candidates only. -/
theorem Classifier.classify_withEngine (classifier : Classifier) {engine : Engine} {file : File}
    {candidates : SortedNames}
    (same : engine (classifier.call file candidates) =
      classifier.engine (classifier.call file candidates)) :
    ({ classifier with engine := engine } : Classifier).classify file candidates =
      classifier.classify file candidates := by
  have answered : ({ classifier with engine := engine } : Classifier).engine
      (({ classifier with engine := engine } : Classifier).call file candidates) =
        classifier.engine (classifier.call file candidates) := same
  rw [Classifier.classify, Classifier.classify, answered]

end Probe

namespace Settings

/-- Another engine answers alike about a file, whether it is to be listed or classified. -/
def AnswersAlike (settings : Settings) (other : Engine) (file : File) : Prop :=
  other ((settings.lister 0).call file) = settings.engine 0 ((settings.lister 0).call file) ∧
    ∀ candidates, other ((settings.classifier 0).call file candidates) =
      settings.engine 0 ((settings.classifier 0).call file candidates)

/-- A file to which references lead from a given one or from a baseline file of the index. -/
def LeadsTo (settings : Settings) (name target : String) : Prop :=
  ∃ root, (root = name ∨ IsHost settings root) ∧ settings.Reaches root target

variable {other : Engine}

theorem Steady.withEngine (steady : settings.Steady) (other : Engine) :
    (settings.withEngine (fun _ => other)).Steady :=
  ⟨fun _ => rfl, steady.read⟩

theorem AnswersAlike.probeAt {file : File} (alike : settings.AnswersAlike other file)
    (steady : settings.Steady) (asked later : Nat) :
    (settings.withEngine (fun _ => other)).probeAt later file = settings.probeAt asked file := by
  rw [(steady.withEngine other).probeAt later, steady.probeAt asked]
  have probed : ((settings.withEngine (fun _ => other)).lister 0).probe file =
      (settings.lister 0).probe file :=
    (settings.lister 0).probe_withEngine alike.1
  rw [Settings.probeAt, probed]
  rfl

theorem AnswersAlike.classify {file : File} (alike : settings.AnswersAlike other file)
    (steady : settings.Steady) (asked later : Nat) (candidates : SortedNames) :
    ((settings.withEngine (fun _ => other)).classifier later).classify file candidates =
      (settings.classifier asked).classify file candidates := by
  rw [(steady.withEngine other).classifier later, steady.classifier asked]
  exact (settings.classifier 0).classify_withEngine (alike.2 candidates)

theorem concurs_of_answersAlike {name : String} (steady : settings.Steady)
    (alike : ∀ target, settings.LeadsTo name target →
      settings.AnswersAlike other (settings.index.resolve target)) :
    settings.Concurs (fun _ => other) (settings.LeadsTo name) := by
  refine ⟨?_, ?_, steady.concurs.read, ?_⟩
  · exact fun target leadsTo asked later => (alike target leadsTo).probeAt steady asked later
  · exact fun target leadsTo asked later candidates =>
      (alike target leadsTo).classify steady asked later candidates
  · rintro source target ⟨root, isRoot, reaches⟩ refers
    exact ⟨root, isRoot, reaches.tail refers⟩

end Settings

/-! ### Two runs -/

/-- Let another engine answer alike about every file to which references lead from a file or
from the baseline, and in any way about all others: time out, fail or panic. Index runs over the
same files under the two engines, whatever the order of the tasks in either, both settle all
their targets, and the file, if both settle it, ends in the same state and with an equal
component. -/
theorem failures_isolated {other : Engine} {pool : TaskPool}
    {schedule : List (List String) → List Nat} {files : List File} {report otherReport : Report}
    {left right : Session} {name : String} (steady : settings.Steady)
    (indexed : ∀ file ∈ files, file ∈ settings.index.files)
    (alike : ∀ target, settings.LeadsTo name target →
      settings.AnswersAlike other (settings.index.resolve target))
    (leftRan : Session.initial.index settings files = some (report, left))
    (rightRan : Session.initial.index
      ((settings.withEngine (fun _ => other)).under pool schedule) files =
        some (otherReport, right)) :
    (∀ file ∈ Session.targetsAmong files, left.registry.isSettled file.name = true ∧
      right.registry.isSettled file.name = true) ∧
    (left.registry.isSettled name = true → right.registry.isSettled name = true →
      right.registry.state name = left.registry.state name ∧
        (left.registry.state name = .registered →
          ∃ bound twin, left.registry.get? name = some bound ∧
            right.registry.get? name = some twin ∧ twin.component = bound.component)) := by
  have concurs := Settings.concurs_of_answersAlike steady alike
  -- The second run ends as it would under the schedule of the first, so the engines alone are
  -- left to be compared.
  obtain ⟨⟨_, middle⟩, middleRan, _, lockstep⟩ := exists_left_of_rel
    ((Lockstep.refl (Orderly.initial _ anyFile) pool schedule).index (steady.withEngine other)
      files)
    rightRan
  have leftEnded := congrArg (Option.map Prod.snd) leftRan
  have middleEnded := congrArg (Option.map Prod.snd) middleRan
  have rightEnded := congrArg (Option.map Prod.snd) rightRan
  constructor
  · intro file isTarget
    obtain ⟨_, _, settled⟩ := (Orderly.initial _ anyFile).index leftEnded
    obtain ⟨_, _, otherSettled⟩ := (Orderly.initial _ anyFile).index rightEnded
    exact ⟨settled file isTarget, otherSettled file isTarget⟩
  · intro inLeft inRight
    have sameBaseline := Session.resolveBaseline_withEngine concurs
      (fun host isHost => ⟨host, Or.inr isHost, Relation.ReflTransGen.refl⟩)
      (Sound.initial settings)
    have inMiddle : middle.registry.isSettled name = true := by
      rw [← (lockstep.alike name).isSettled]
      exact inRight
    have below : left.registry.AlikeOn middle.registry name :=
      alike_of_concurs concurs sameBaseline indexed indexed leftEnded middleEnded
        ⟨name, Or.inl rfl, Relation.ReflTransGen.refl⟩ inLeft inMiddle
    have both := below.trans (lockstep.alike name)
    refine ⟨both.state, fun registered => ?_⟩
    have leftSound := (index_advance (Sound.initial settings) indexed leftEnded).sound
    obtain ⟨bound, held⟩ := leftSound.exists_bound_of_registered registered
    obtain ⟨twin, twinHeld, same⟩ := both.exists_twin held
    exact ⟨bound, twin, held, twinHeld, same⟩

/-! ### An engine that fails about one package -/

/-- The document begins with the lines that load a file. -/
def Probe.loads (file : File) (document : String) : Bool :=
  (header file).toByteArray.data.toList.isPrefixOf document.toByteArray.data.toList

/-- Panic whenever the document loads a file, and answer otherwise. -/
def Engine.panickingAbout (file : File) (engine : Engine) : Engine := fun call =>
  if Probe.loads file call.document then .panicked (.message "no answer") else engine call

/-- How the classification documents of a file begin, whatever the candidates are. -/
def Probe.opening (file : File) : String :=
  closed (headerLines file ++ ["\\makeatletter", command "begin" "document"])

theorem Probe.closed_append (lines more : List String) :
    closed (lines ++ more) = closed lines ++ closed more := by
  rw [closed, closed, closed, List.map_append, String.join_append]

theorem Probe.opening_isPrefix (file : File) (candidates : SortedNames) :
    (opening file).toByteArray.data.toList <+:
      (classificationDocument file candidates).toByteArray.data.toList := by
  rw [classificationDocument, List.append_assoc, closed_append, String.toByteArray_append,
    ByteArray.data_append, Array.toList_append]
  exact List.prefix_append _ _

theorem Settings.answersAlike_panickingAbout (settings : Settings) {about file : File}
    (notListed : Probe.loads about (Probe.listingDocument file) = false)
    (notClassified : Probe.loads about (Probe.opening file) = false)
    (short : (Probe.header about).utf8ByteSize ≤ (Probe.opening file).utf8ByteSize) :
    settings.AnswersAlike ((settings.engine 0).panickingAbout about) file := by
  constructor
  · exact if_neg (Bool.eq_false_iff.mp notListed)
  · intro candidates
    refine if_neg ?_
    intro opens
    have onlyOpening := List.prefix_of_prefix_length_le (List.isPrefixOf_iff_prefix.mp opens)
      (Probe.opening_isPrefix file candidates) short
    rw [Probe.loads, List.isPrefixOf_iff_prefix.mpr onlyOpening] at notClassified
    cases notClassified

theorem Settings.leadsTo_sample {target : String}
    (leadsTo : Settings.sample.LeadsTo "c.sty" target) :
    target = "c.sty" ∨ target = "article.cls" := by
  obtain ⟨root, isRoot, reaches⟩ := leadsTo
  have rootIs : root = "c.sty" ∨ root = "article.cls" := by
    refine isRoot.imp id ?_
    rintro ⟨inBaseline, _⟩
    rw [Settings.baseline_sample] at inBaseline
    exact List.mem_singleton.mp inBaseline
  have refersNowhere : ∀ source, source = "c.sty" ∨ source = "article.cls" →
      (Settings.sample.probeAt 0 (Settings.sample.index.resolve source)).referenceNames = [] := by
    rintro source (rfl | rfl) <;> decide +kernel
  rcases Relation.ReflTransGen.cases_head reaches with rfl | ⟨next, refers, _⟩
  · exact rootIs
  · rw [Settings.Refers, refersNowhere root rootIs] at refers
    cases refers

/-- The engine panics about one half of the knot. That half is skipped and the other never met,
but the package below the knot fares as before. -/
theorem sample_failures_isolated :
    ∃ report left otherReport right,
      Session.initial.index Settings.sample (["b.sty", "c.sty"].map File.sample) =
        some (report, left) ∧
      Session.initial.index ((Settings.sample.withEngine (fun _ =>
          Engine.sample.panickingAbout (.sample "b.sty"))).under (.parallel 2)
            (fun _ => [1, 0])) (["b.sty", "c.sty"].map File.sample) =
        some (otherReport, right) ∧
      left.registry.state "a.sty" = .registered ∧ right.registry.state "a.sty" = .unresolved ∧
      right.registry.state "b.sty" = .skipped ∧ left.registry.state "c.sty" = .registered ∧
      right.registry.state "c.sty" = .registered ∧
      ∃ twin, right.registry.get? "c.sty" = some twin ∧ twin.component = .below := by
  obtain ⟨⟨report, left⟩, leftRan, _, _, registered, belowRegistered, belowAt, _⟩ := index_sample
  have rightKnown : ∃ done ∈ Session.initial.index ((Settings.sample.withEngine (fun _ =>
      Engine.sample.panickingAbout (.sample "b.sty"))).under (.parallel 2)
        (fun _ => [1, 0])) (["b.sty", "c.sty"].map File.sample),
      done.2.registry.state "a.sty" = .unresolved ∧ done.2.registry.state "b.sty" = .skipped := by
    decide +kernel
  obtain ⟨⟨otherReport, right⟩, rightRan, unresolved, skipped⟩ := rightKnown
  have alike : ∀ target, Settings.sample.LeadsTo "c.sty" target → Settings.sample.AnswersAlike
      (Engine.sample.panickingAbout (.sample "b.sty")) (Settings.sample.index.resolve target) := by
    intro target leadsTo
    rcases Settings.leadsTo_sample leadsTo with rfl | rfl
    · exact Settings.sample.answersAlike_panickingAbout (by decide +kernel) (by decide +kernel)
        (by decide +kernel)
    · exact Settings.sample.answersAlike_panickingAbout (by decide +kernel) (by decide +kernel)
        (by decide +kernel)
  obtain ⟨settled, fares⟩ := failures_isolated Settings.steady_sample (by decide +kernel) alike
    leftRan rightRan
  obtain ⟨leftSettled, rightSettled⟩ := settled (.sample "c.sty") (by decide +kernel)
  obtain ⟨state, component⟩ := fares leftSettled rightSettled
  obtain ⟨bound, twin, held, twinHeld, same⟩ := component belowRegistered
  obtain ⟨other, otherHeld, isBelow⟩ := Option.map_eq_some_iff.mp belowAt
  obtain rfl : bound = other := Option.some.inj (held.symm.trans otherHeld)
  exact ⟨report, left, otherReport, right, leftRan, rightRan, registered, unresolved, skipped,
    belowRegistered, state.trans belowRegistered, twin, twinHeld, same.trans isBelow⟩

end TexAtlas
