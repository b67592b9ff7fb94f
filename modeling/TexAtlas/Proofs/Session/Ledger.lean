/-
Each file is worked on at most once. The journal of a run balances with what the run leaves
behind: a file was listed once if it is known and never otherwise, a file took part in one
attribution if it is settled and in none otherwise. Only a single probe that ends in a panic
of the engine leaves nothing behind but its note, so only such a file may be listed again.
-/

import TexAtlas.Proofs.Session.Completion
import TexAtlas.Proofs.Session.Journal

namespace TexAtlas

open Clustering (namesOf)

variable {settings : Settings} {session before after : Session} {broken : String → Nat}

/-- An operation is a single probe of a file of this name, and the engine panics. -/
def Operation.breaksDown (settings : Settings) (session : Session) (name : String) :
    Operation → Bool
  | .dependency file =>
    match (session.dependency settings file).1 with
    | .panicked _ => file.name == name
    | .value _ => false
  | _ => false

/-- How many single probes of a run panic about a file. -/
def Session.breakdowns (settings : Settings) (name : String) : List Operation → Session → Nat
  | [], _ => 0
  | operation :: rest, session =>
    (operation.breaksDown settings session name).toNat +
      match operation.perform settings session with
      | some next => breakdowns settings name rest next
      | none => 0

/-! ### Groups of one layer -/

theorem Clustering.countP_contains {layer : List (List Dependency)}
    (distinct : (namesOf layer).Nodup) (name : String) :
    layer.countP (fun members => (members.map Dependency.name).contains name) =
      (decide (name ∈ namesOf layer)).toNat := by
  induction layer with
  | nil => rfl
  | cons members rest ih =>
      rw [namesOf_cons, List.nodup_append] at distinct
      obtain ⟨_, restDistinct, apart⟩ := distinct
      rw [List.countP_cons, ih restDistinct, namesOf_cons]
      by_cases inside : name ∈ members.map Dependency.name
      · have notLater : name ∉ namesOf rest := fun later => apart name inside name later rfl
        simp [inside, notLater]
      · simp [inside]

/-- Of the groups of a layer just one is led by a member of a given group of it. -/
theorem LayerReady.countP_led {layer : List (List Dependency)} {rest : List String}
    (ready : LayerReady settings session layer rest) {members : List Dependency}
    (isGroup : members ∈ layer) :
    layer.countP (fun others => others.head?.any (fun lead =>
      (members.map Dependency.name).contains lead.name)) = 1 := by
  have group := ready.groups members isGroup
  obtain ⟨lead, tail, rfl⟩ := List.exists_cons_of_ne_nil group.nonempty
  have leadInside : lead.name ∈ (lead :: tail).map Dependency.name := List.mem_cons_self ..
  have inLayer : lead.name ∈ namesOf layer :=
    (Clustering.mem_namesOf layer _).mpr ⟨_, isGroup, leadInside⟩
  have counted := Clustering.countP_contains ready.namesOf_nodup lead.name
  rw [decide_eq_true inLayer] at counted
  refine Eq.trans (List.countP_congr ?_) counted
  intro others isOther
  obtain ⟨other, rest, rfl⟩ := List.exists_cons_of_ne_nil (ready.groups others isOther).nonempty
  rw [List.contains_iff_mem, List.head?_cons, Option.any_some, List.contains_iff_mem]
  constructor
  · intro inside
    rw [(ready.groups _ isOther).unique group (List.mem_cons_self ..) inside]
    exact leadInside
  · intro inside
    have same := (ready.groups _ isOther).unique group inside leadInside
    rw [← same]
    exact List.mem_cons_self ..

theorem LayerReady.countP_led_of_outside {layer : List (List Dependency)} {rest : List String}
    (ready : LayerReady settings session layer rest) {names : List String}
    (outside : ∀ name ∈ names, name ∉ namesOf layer) :
    layer.countP (fun others => others.head?.any (fun lead => names.contains lead.name)) = 0 := by
  rw [List.countP_eq_zero]
  intro others isGroup led
  obtain ⟨lead, tail, rfl⟩ := List.exists_cons_of_ne_nil (ready.groups others isGroup).nonempty
  exact outside lead.name (List.contains_iff_mem.mp led)
    ((Clustering.mem_namesOf layer _).mpr ⟨_, isGroup, List.mem_cons_self ..⟩)

/-- A group that is settled in part was a group when less was known, and is settled as a
whole. -/
theorem Coherent.isGroup_back {memo later : Memo} {registry : Registry} {pending : List String}
    (coherent : Coherent memo registry pending) (within : memo.Within later)
    {members : List Dependency} (group : later.IsGroup members) {name : String}
    (inside : name ∈ members.map Dependency.name) (settled : registry.isSettled name = true) :
    memo.IsGroup members ∧
      ∀ other ∈ members.map Dependency.name, registry.isSettled other = true := by
  obtain ⟨others, otherGroup, otherInside, settles⟩ := coherent.grouped name settled
  have stays := otherGroup.mono within (fun _ known => coherent.probed_of_settled known)
    coherent.closed (fun member present => settles.isSettled (List.mem_map_of_mem present))
  rw [group.unique stays inside otherInside]
  exact ⟨otherGroup, fun other => settles.isSettled⟩

/-! ### The balance -/

/-- The journal of a session balances with its memo and its registry. The broken probes of
a name are those that left nothing behind. -/
structure Session.Balanced (broken : String → Nat) (session : Session) : Prop where
  listings : ∀ name, session.listings name = (session.memo.contains name).toNat + broken name
  attempts : ∀ name, session.attempts name = (session.registry.isSettled name).toNat
  unclassified : ∀ names, (∀ name ∈ names, session.registry.isSettled name = false) →
    session.classifications names = 0
  classified : ∀ members, Memo.IsGroup session.memo members →
    (∀ name ∈ members.map Dependency.name, session.registry.isSettled name = true) →
      session.classifications (members.map Dependency.name) = 1

namespace Session.Balanced

theorem initial : Balanced (fun _ => 0) Session.initial where
  listings _ := rfl
  attempts _ := rfl
  unclassified _ _ := rfl
  classified members group settled := by
    obtain ⟨member, present⟩ := List.exists_mem_of_ne_nil members group.nonempty
    cases settled member.name (List.mem_map_of_mem present)

/-- To come to know files and settle none keeps the balance. -/
theorem learn {pending : List String} {files : List File} (balanced : before.Balanced broken)
    (coherent : Coherent before.memo before.registry pending)
    (within : Memo.Within before.memo after.memo) (learned : Learned files before after)
    (settledIs : ∀ name, after.registry.isSettled name = before.registry.isSettled name) :
    after.Balanced broken := by
  refine ⟨?_, ?_, ?_, ?_⟩
  · intro name
    rw [listings_of_listed learned.journal, learned.known, balanced.listings]
    omega
  · intro name
    rw [attempts_of_listed learned.journal, settledIs]
    exact balanced.attempts name
  · intro names unsettled
    rw [classifications_of_listed learned.journal]
    exact balanced.unclassified names (fun name inside => settledIs name ▸ unsettled name inside)
  · intro members group settled
    obtain ⟨member, present⟩ := List.exists_mem_of_ne_nil members group.nonempty
    have inside := List.mem_map_of_mem (f := Dependency.name) present
    obtain ⟨groupBefore, settledBefore⟩ :=
      coherent.isGroup_back within group inside (settledIs _ ▸ settled _ inside)
    rw [classifications_of_listed learned.journal]
    exact balanced.classified members groupBefore settledBefore

/-- Work on a level keeps the balance: one attribution for each of its groups. -/
theorem attributeLevel {layer : List (List Dependency)} {layers : List (List (List Dependency))}
    (balanced : session.Balanced broken)
    (ready : LayersReady settings session (layer :: layers)) (schedule : List Nat) :
    (session.attributeLevel settings schedule layer).Balanced broken := by
  have memoIs := (Session.attributeLevel_sound ready.head schedule).1
  have settledIff := ready.isSettled_attributeLevel schedule
  refine ⟨?_, ?_, ?_, ?_⟩
  · intro name
    rw [listings_attributeLevel ready.head, memoIs]
    exact balanced.listings name
  · intro name
    have settledNow := settledIff name
    rw [attempts_attributeLevel ready.head, balanced.attempts,
      Clustering.countP_contains ready.head.namesOf_nodup]
    cases settled : session.registry.isSettled name with
    | true =>
        rw [settledNow.mpr (Or.inl settled),
          decide_eq_false (ready.head.not_mem_of_settled settled)]
        rfl
    | false =>
        rw [Bool.toNat_false, Nat.zero_add]
        refine congrArg Bool.toNat (Bool.eq_iff_iff.mpr ?_)
        rw [decide_eq_true_iff, settledNow, settled]
        simp
  · intro names unsettled
    have untouched : ∀ name ∈ names, session.registry.isSettled name = false ∧
        name ∉ namesOf layer := by
      intro name inside
      have notAfter := mt (settledIff name).mpr (Bool.eq_false_iff.mp (unsettled name inside))
      rw [not_or, Bool.not_eq_true] at notAfter
      exact notAfter
    rw [classifications_attributeLevel ready.head,
      ready.head.countP_led_of_outside (fun name inside => (untouched name inside).2),
      balanced.unclassified names (fun name inside => (untouched name inside).1)]
  · intro members group settled
    rw [memoIs] at group
    rw [classifications_attributeLevel ready.head]
    by_cases isGroup : members ∈ layer
    · -- Nothing was classified for a group of the layer before.
      have pending : ∀ name ∈ members.map Dependency.name,
          session.registry.isSettled name = false := by
        intro name inside
        rw [Bool.eq_false_iff]
        exact fun already => ready.head.not_mem_of_settled already
          ((Clustering.mem_namesOf layer name).mpr ⟨members, isGroup, inside⟩)
      rw [balanced.unclassified _ pending, ready.head.countP_led isGroup]
    · have outside : ∀ name ∈ members.map Dependency.name, name ∉ namesOf layer := by
        intro name inside inLayer
        obtain ⟨others, isOther, inOthers⟩ := (Clustering.mem_namesOf layer name).mp inLayer
        exact isGroup (group.unique (ready.head.groups others isOther) inside inOthers ▸ isOther)
      rw [ready.head.countP_led_of_outside outside, Nat.add_zero]
      refine balanced.classified members group ?_
      intro name inside
      exact ((settledIff name).mp (settled name inside)).resolve_right (outside name inside)

theorem attributeLevels {layers : List (List (List Dependency))}
    (balanced : session.Balanced broken) (ready : LayersReady settings session layers) :
    (session.attributeLevels settings layers).Balanced broken := by
  induction layers generalizing session with
  | nil => exact balanced
  | cons layer layers ih => exact ih (balanced.attributeLevel ready _) (ready.next _)

theorem resolveClosure (balanced : before.Balanced broken)
    (orderly : Orderly settings anyFile before) {file : File} {found : Option Instance}
    (ran : before.resolveClosure settings file = some (found, after)) :
    after.Balanced broken := by
  unfold Session.resolveClosure at ran
  split at ran
  · cases ran
    exact balanced
  · rename_i unbound
    split at ran
    · cases ran
      exact balanced
    · rename_i notSkipped
      rw [Bool.not_eq_true] at notSkipped
      obtain ⟨⟨clustering, grown⟩, clustered, same⟩ := Option.map_eq_some_iff.mp ran
      cases same
      have isOpen := orderly.coherent.open_of_unbound unbound notSkipped
      have ready := orderly.cluster (fun _ _ => trivial) trivial isOpen clustered
      obtain ⟨⟨files, learned⟩, _⟩ := learned_cluster clustered
      have marked : (grown.marked clustering).Balanced broken :=
        balanced.learn orderly.coherent ready.later.within ⟨learned.journal, learned.known⟩
          ready.settledIs
      exact marked.attributeLevels ready.layers

/-- A single probe keeps the balance, unless it ends in a panic: then it was for nothing. -/
theorem dependency (balanced : before.Balanced broken)
    (orderly : Orderly settings anyFile before) (file : File) :
    (before.dependency settings file).2.Balanced (fun name =>
      broken name + (Operation.breaksDown settings before name (.dependency file)).toNat) := by
  have isAdmitted : anyFile file := trivial
  obtain ⟨registryIs, within, _⟩ := orderly.dependency isAdmitted
  rcases Session.dependency_cases settings before file with
    ⟨known, same⟩ | ⟨unknown, ⟨found, named, same⟩ | ⟨panic, same⟩⟩
  · simp only [Operation.breaksDown, same]
    exact balanced
  · rw [same] at within
    have learned : Learned [file] before
        { before.note [.listed file] with memo := remember before.memo found } := by
      refine ⟨rfl, ?_⟩
      intro name
      have isKnown := contains_remember_iff before.memo found name
      rw [named] at isKnown
      by_cases isFile : file.name = name
      · subst isFile
        rw [isKnown.mpr (Or.inr rfl), unknown]
        simp
      · have notCounted : [file.name].count name = 0 :=
          List.count_eq_zero.mpr (fun inside => isFile (List.mem_singleton.mp inside).symm)
        rw [List.map_singleton, notCounted, Nat.add_zero]
        exact congrArg Bool.toNat (Bool.eq_iff_iff.mpr (isKnown.trans (or_iff_left isFile)))
    simp only [Operation.breaksDown, same]
    exact balanced.learn orderly.coherent within learned (fun _ => rfl)
  · simp only [Operation.breaksDown, same]
    have noted : (before.note [.listed file]).journal =
        before.journal ++ [file].map Event.listed := rfl
    refine ⟨?_, ?_, ?_, ?_⟩
    · intro name
      rw [listings_of_listed noted, balanced.listings, Nat.add_assoc, List.map_singleton,
        List.count, countP_single]
      rfl
    · intro name
      rw [attempts_of_listed noted]
      exact balanced.attempts name
    · intro names unsettled
      rw [classifications_of_listed noted]
      exact balanced.unclassified names unsettled
    · intro members group settled
      rw [classifications_of_listed noted]
      exact balanced.classified members group settled

/-! ### Operations -/

theorem foldlM {α : Type} {step : Session → α → Option Session} {items : List α}
    (balanced : before.Balanced broken) (orderly : Orderly settings anyFile before)
    (each : ∀ item ∈ items, ∀ middle next, middle.Balanced broken →
      Orderly settings anyFile middle → step middle item = some next →
        next.Balanced broken ∧ Orderly settings anyFile next)
    (ran : items.foldlM step before = some after) :
    after.Balanced broken ∧ Orderly settings anyFile after := by
  induction items generalizing before with
  | nil =>
      cases ran
      exact ⟨balanced, orderly⟩
  | cons item items ih =>
      obtain ⟨next, stepped, rest⟩ := Option.bind_eq_some_iff.mp ran
      obtain ⟨nextBalanced, nextOrderly⟩ :=
        each item (List.mem_cons_self ..) before next balanced orderly stepped
      exact ih nextBalanced nextOrderly
        (fun other later => each other (List.mem_cons_of_mem item later)) rest

theorem resolve (balanced : before.Balanced broken) (orderly : Orderly settings anyFile before)
    {file : File} {found : Option Instance}
    (ran : before.resolve settings file = some (found, after)) : after.Balanced broken := by
  obtain ⟨ready, based, resolves⟩ := Option.bind_eq_some_iff.mp ran
  have readyBalanced : ready.Balanced broken ∧ Orderly settings anyFile ready := by
    refine balanced.foldlM orderly ?_ based
    intro name _ middle next middleBalanced middleOrderly stepped
    unfold resolveBaselineFile at stepped
    split at stepped
    · cases stepped
      exact ⟨middleBalanced, middleOrderly⟩
    · split at stepped
      · cases stepped
        exact ⟨middleBalanced, middleOrderly⟩
      · obtain ⟨⟨found, _⟩, resolves, same⟩ := Option.map_eq_some_iff.mp stepped
        cases same
        exact ⟨middleBalanced.resolveClosure middleOrderly resolves,
          (middleOrderly.resolveClosure (fun _ _ => trivial) trivial resolves).1⟩
  exact readyBalanced.1.resolveClosure readyBalanced.2 resolves

theorem index (balanced : before.Balanced broken) (orderly : Orderly settings anyFile before)
    {files : List File} (ran : (before.index settings files).map Prod.snd = some after) :
    after.Balanced broken := by
  unfold Session.index at ran
  rw [Option.map_map, Option.map_eq_some_iff] at ran
  obtain ⟨done, folded, same⟩ := ran
  cases same
  refine (balanced.foldlM orderly ?_ folded).1
  intro file _ middle next middleBalanced middleOrderly stepped
  refine ⟨?_, (middleOrderly.indexFile stepped).1⟩
  unfold indexFile at stepped
  split at stepped
  · cases stepped
    exact middleBalanced
  · obtain ⟨⟨found, _⟩, resolves, same⟩ := Option.map_eq_some_iff.mp stepped
    cases same
    exact middleBalanced.resolve middleOrderly resolves

theorem applyOverrides (balanced : before.Balanced broken) (entries : List OverrideEntry) :
    (before.applyOverrides entries).2.Balanced broken := by
  have settledIs : ∀ name, (before.applyOverrides entries).2.registry.isSettled name =
      before.registry.isSettled name := fun name =>
    congrArg FileState.isTerminal (before.registry.state_applyOverrides entries name)
  refine ⟨balanced.listings, ?_, ?_, ?_⟩
  · intro name
    rw [settledIs]
    exact balanced.attempts name
  · intro names unsettled
    exact balanced.unclassified names (fun name inside => settledIs name ▸ unsettled name inside)
  · intro members group settled
    exact balanced.classified members group
      (fun name inside => settledIs name ▸ settled name inside)

/-- An operation keeps the balance; what it probes in vain is broken. -/
theorem perform {operation : Operation} (balanced : before.Balanced broken)
    (orderly : Orderly settings anyFile before)
    (performed : operation.perform settings before = some after) :
    after.Balanced (fun name =>
      broken name + (operation.breaksDown settings before name).toNat) := by
  cases operation with
  | resolve file =>
      obtain ⟨⟨found, _⟩, resolves, same⟩ := Option.map_eq_some_iff.mp performed
      cases same
      exact balanced.resolve orderly resolves
  | index files => exact balanced.index orderly performed
  | indexAll => exact balanced.index orderly performed
  | dependency file =>
      cases performed
      exact balanced.dependency orderly file
  | applyOverrides entries =>
      cases performed
      exact balanced.applyOverrides entries

theorem run {operations : List Operation} (balanced : before.Balanced broken)
    (orderly : Orderly settings anyFile before)
    (ran : before.run settings operations = some after) :
    after.Balanced (fun name => broken name + breakdowns settings name operations before) := by
  induction operations generalizing before broken with
  | nil =>
      cases ran
      exact balanced
  | cons operation rest ih =>
      obtain ⟨next, performed, others⟩ := Option.bind_eq_some_iff.mp ran
      have done := ih (balanced.perform orderly performed) (orderly.perform performed).1 others
      simp only [breakdowns, performed, ← Nat.add_assoc]
      exact done

end Session.Balanced

/-! ### What comes later -/

/-- Something that is new to a session: a file not known to it is listed, or a group not
settled in it is attributed. -/
def Event.IsNewTo (session : Session) : Event → Prop
  | .listed file => session.memo.contains file.name = false
  | .surveyed members _ => ∀ name ∈ members, session.registry.isSettled name = false
  | .classified lead _ => session.registry.isSettled lead.name = false

theorem journal_run {operations : List Operation}
    (ran : before.run settings operations = some after) : before.journal <+: after.journal := by
  have parts : before.Parts settings anyFile True after :=
    Session.Parts.run (fun _ _ => trivial) (fun _ _ _ _ => trivial) (fun _ _ _ => trivial) ran
  clear ran
  induction parts with
  | refl => exact List.prefix_refl _
  | tail _ part ih =>
      refine ih.trans ?_
      cases part with
      | closure _ ran => exact Session.journal_resolveClosure ran
      | dependency _ => exact Session.journal_dependency _
      | applyOverrides _ _ => exact List.prefix_refl _

/-- A probe of a known file asks no engine, so it does not panic. -/
theorem Operation.breaksDown_of_known {operation : Operation} {name : String}
    (known : before.memo.contains name = true) :
    operation.breaksDown settings before name = false := by
  cases operation with
  | dependency file =>
      rcases Session.dependency_cases settings before file with
        ⟨dependency, same⟩ | ⟨unknown, ⟨found, _, same⟩ | ⟨panic, same⟩⟩
      · simp only [breaksDown, same]
      · simp only [breaksDown, same]
      · simp only [breaksDown, same, beq_eq_false_iff_ne]
        rintro rfl
        rw [known] at unknown
        cases unknown
  | _ => rfl

theorem Session.breakdowns_of_known {operations : List Operation} {name : String}
    (orderly : Orderly settings anyFile before) (known : before.memo.contains name = true)
    (ran : before.run settings operations = some after) :
    before.breakdowns settings name operations = 0 := by
  induction operations generalizing before with
  | nil => rfl
  | cons operation rest ih =>
      obtain ⟨next, performed, others⟩ := Option.bind_eq_some_iff.mp ran
      obtain ⟨nextOrderly, onward, _⟩ := orderly.perform performed
      have laterNone := ih nextOrderly (onward.within.contains known) others
      have nowNone : operation.breaksDown settings before name = false :=
        Operation.breaksDown_of_known known
      simp only [breakdowns, performed, nowNone, laterNone]
      rfl

theorem not_kind_of_same_count {kind : Event → Bool} {journal later : List Event}
    (same : (journal ++ later).countP kind = journal.countP kind) {event : Event}
    (noted : event ∈ later) : kind event = false := by
  rw [List.countP_append] at same
  have none : later.countP kind = 0 := by omega
  exact Bool.eq_false_iff.mpr (List.countP_eq_zero.mp none event noted)

/-- Whatever a run adds to the journal is new to the session that it began with. -/
theorem new_of_run {operations : List Operation} (balanced : before.Balanced broken)
    (orderly : Orderly settings anyFile before)
    (ran : before.run settings operations = some after) :
    ∃ later, after.journal = before.journal ++ later ∧ ∀ event ∈ later, event.IsNewTo before := by
  obtain ⟨later, journalIs⟩ := journal_run ran
  obtain ⟨afterOrderly, onward, _⟩ := orderly.run ran
  have afterBalanced := balanced.run orderly ran
  refine ⟨later, journalIs.symm, ?_⟩
  intro event noted
  -- What is known or settled already counts the same before and after, so no event of its kind
  -- was noted in between.
  have absent : ∀ kind : Event → Bool,
      after.journal.countP kind = before.journal.countP kind → kind event = false :=
    fun kind same => not_kind_of_same_count (journalIs ▸ same) noted
  cases event with
  | listed file =>
      refine Bool.eq_false_iff.mpr fun known => ?_
      have listed := absent (Event.lists file.name) ?_
      · simp [Event.lists] at listed
      · refine (afterBalanced.listings file.name).trans
          (Eq.trans ?_ (balanced.listings file.name).symm)
        rw [Session.breakdowns_of_known orderly known ran, known, onward.within.contains known]
        rfl
  | surveyed members registry =>
      intro name inside
      refine Bool.eq_false_iff.mpr fun settled => ?_
      have attempted := absent (Event.attempts name) ?_
      · simp [Event.attempts, inside] at attempted
      · refine (afterBalanced.attempts name).trans (Eq.trans ?_ (balanced.attempts name).symm)
        rw [settled, onward.isSettled settled]
  | classified lead candidates =>
      refine Bool.eq_false_iff.mpr fun settled => ?_
      obtain ⟨members, group, inside, _⟩ :=
        afterOrderly.coherent.grouped lead.name (onward.isSettled settled)
      obtain ⟨groupBefore, settledBefore⟩ :=
        orderly.coherent.isGroup_back onward.within group inside settled
      have classified := absent (Event.classifies (members.map Dependency.name)) ?_
      · rw [Event.classifies, List.contains_iff_mem.mpr inside] at classified
        cases classified
      · refine (afterBalanced.classified members group ?_).trans
          (balanced.classified members groupBefore settledBefore).symm
        exact fun name insideNow => onward.isSettled (settledBefore name insideNow)

/-! ### Indexing again -/

theorem Session.indexFiles_of_settled {targets : List File}
    (settled : ∀ file ∈ targets, session.registry.isSettled file.name = true) :
    targets.foldlM (Session.indexFile settings) session = some session := by
  induction targets with
  | nil => rfl
  | cons file rest ih =>
      have nothing : session.indexFile settings file = some session := by
        rw [Session.indexFile, settled file (List.mem_cons_self ..), Bool.or_true, if_pos rfl]
      rw [List.foldlM_cons, nothing]
      exact ih (fun other later => settled other (List.mem_cons_of_mem file later))

theorem Session.index_of_settled {files : List File}
    (settled : ∀ file ∈ targetsAmong files, session.registry.isSettled file.name = true) :
    session.index settings files =
      some (session.report (targetsAmong files).length, session) := by
  rw [Session.index, indexFiles_of_settled settled]
  rfl

/-- Each file is worked on once. In a session that any run led to, a file was listed once if
it is known, and otherwise only in single probes about which the engine panicked; it took part
in one attribution if it is settled and in none otherwise; and for the files of a group, a
component in particular, candidates were classified once if they are settled and never
otherwise. What the session knows stays, and whatever else it is asked to do, it lists no file
that it knows and attributes none that is settled. To index files again does nothing at all
and reports the same. -/
theorem each_file_worked_on_once {operations : List Operation}
    (ran : Session.initial.run settings operations = some session) :
    (∀ name, session.listings name = (session.memo.contains name).toNat +
      Session.initial.breakdowns settings name operations) ∧
    (∀ name, session.attempts name = (session.registry.isSettled name).toNat) ∧
    (∀ members, Memo.IsGroup session.memo members →
      session.classifications (members.map Dependency.name) =
        ((members.map Dependency.name).any session.registry.isSettled).toNat) ∧
    (∀ name bound, session.registry.get? name = some bound →
      session.classifications bound.component.fileNames = 1) ∧
    (∀ more after, session.run settings more = some after →
      Memo.Within session.memo after.memo ∧
        ∃ later, after.journal = session.journal ++ later ∧
          ∀ event ∈ later, event.IsNewTo session) ∧
    ∀ files report after, session.index settings files = some (report, after) →
      after.index settings files = some (report, after) ∧
        ∀ more last, after.run settings more = some last →
          last.index settings files =
            some (last.report (Session.targetsAmong files).length, last) := by
  have orderly := ((Orderly.initial settings anyFile).run ran).1
  have balanced := Session.Balanced.initial.run (Orderly.initial settings anyFile) ran
  refine ⟨?_, balanced.attempts, ?_, ?_, ?_, ?_⟩
  · intro name
    rw [balanced.listings, Nat.zero_add]
  · intro members group
    cases touched : (members.map Dependency.name).any session.registry.isSettled with
    | true =>
        obtain ⟨name, inside, settled⟩ := List.any_eq_true.mp touched
        have settles := orderly.coherent.settles_of_settled group inside settled
        exact balanced.classified members group (fun other => settles.isSettled)
    | false =>
        refine balanced.unclassified _ fun name inside => ?_
        exact Bool.eq_false_iff.mpr (List.any_eq_false.mp touched name inside)
  · intro name bound held
    obtain ⟨_, members, group, _, holds⟩ := orderly.coherent.holds_of_bound held
    rw [holds.fileNames]
    exact balanced.classified members group
      (fun other => Registry.Settles.isSettled (Or.inl ⟨bound, holds⟩))
  · intro more after ranMore
    exact ⟨(orderly.run ranMore).2.1.within, new_of_run balanced orderly ranMore⟩
  · intro files report after indexed
    have performed : (session.index settings files).map Prod.snd = some after := by
      rw [indexed]
      rfl
    obtain ⟨afterOrderly, _, settled⟩ := orderly.index performed
    have reportIs : report = after.report (Session.targetsAmong files).length := by
      obtain ⟨done, _, same⟩ := Option.map_eq_some_iff.mp indexed
      cases same
      rfl
    refine ⟨reportIs ▸ Session.index_of_settled settled, ?_⟩
    intro more last ranMore
    have onward := (afterOrderly.run ranMore).2.1
    exact Session.index_of_settled (fun file isTarget => onward.isSettled (settled file isTarget))

/-- The single probe of `c.sty` panics, so the file is listed again, and then no more. It is
classified once, in vain, and the registered package once too. -/
theorem faulty_each_file_worked_on_once :
    ∃ session, Session.initial.run Settings.faulty Operation.faulty = some session ∧
      session.registry.state "c.sty" = .skipped ∧
      session.listings "c.sty" = 2 ∧ session.listings "b.sty" = 1 ∧
      session.attempts "c.sty" = 1 ∧ session.attempts "b.sty" = 1 ∧
      session.attempts "z.sty" = 0 ∧ session.classifications ["b.sty"] = 1 := by
  obtain ⟨session, ran, component, states, known, _⟩ := run_faulty
  have broken : Session.initial.breakdowns Settings.faulty "c.sty" Operation.faulty = 1 ∧
      Session.initial.breakdowns Settings.faulty "b.sty" Operation.faulty = 0 := by
    decide +kernel
  obtain ⟨bound, held, isComponent⟩ := Option.map_eq_some_iff.mp component
  simp only [List.map_cons, List.map_nil, List.cons.injEq, and_true] at states known
  obtain ⟨_, registered, skipped, unresolved⟩ := states
  obtain ⟨listings, attempts, _, classified, _⟩ := each_file_worked_on_once ran
  refine ⟨session, ran, skipped, ?_, ?_, ?_, ?_, ?_, ?_⟩
  · rw [listings, known.2, broken.1]
    rfl
  · rw [listings, known.1, broken.2]
    rfl
  · rw [attempts, Registry.isSettled, skipped]
    rfl
  · rw [attempts, Registry.isSettled, registered]
    rfl
  · rw [attempts, Registry.isSettled, unresolved]
    rfl
  · have once := classified "b.sty" bound held
    rwa [isComponent] at once

end TexAtlas
