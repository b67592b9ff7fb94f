/-
How a settled group came by its symbols. What was looked up when the group was classified is
recorded in terms of the registry as it is now: what the group refers to was settled before
the group and never changes, and of the baseline files just those counted that were settled
at the time. Those are all of them, unless a baseline file itself leads to the group.
-/

import TexAtlas.Proofs.Session.Level

namespace TexAtlas

open Clustering (namesOf)

/-- A later moment of a session: no probe is forgotten and settled files stay as they are. -/
structure Later (before after : Session) : Prop where
  within : Memo.Within before.memo after.memo
  keeps : ∀ name, before.registry.isSettled name = true →
    before.registry.AgreesOn after.registry name

namespace Later

variable {before middle after : Session}

theorem refl (session : Session) : Later session session :=
  ⟨Memo.Within.refl _, fun _ _ => ⟨rfl, rfl⟩⟩

theorem isSettled (later : Later before after) {name : String}
    (settled : before.registry.isSettled name = true) : after.registry.isSettled name = true := by
  rw [(later.keeps name settled).isSettled]
  exact settled

theorem trans (first : Later before middle) (second : Later middle after) :
    Later before after := by
  refine ⟨first.within.trans second.within, ?_⟩
  intro name settled
  have early := first.keeps name settled
  have late := second.keeps name (first.isSettled settled)
  exact ⟨late.1.trans early.1, late.2.trans early.2⟩

end Later

namespace Registry

theorem leads_congr_roots {registry : Registry} {roots others : List String}
    (same : ∀ name, registry.contains name = true → (name ∈ roots ↔ name ∈ others))
    (bound : Instance) : registry.Leads roots bound ↔ registry.Leads others bound := by
  have half : ∀ {from_names to_names : List String},
      (∀ name, registry.contains name = true → name ∈ from_names → name ∈ to_names) →
        registry.Leads from_names bound → registry.Leads to_names bound := by
    intro from_names to_names included leads
    refine leads.within ?_ (fun _ inside _ member _ held => .step inside member held)
    intro name member found held
    exact .root (included name ((contains_iff registry name).mpr ⟨found, held⟩) member) held
  exact ⟨half (fun name isBound => (same name isBound).mp),
    half (fun name isBound => (same name isBound).mpr)⟩

theorem Surveyed.congr {registry other : Registry} {roots others : List String}
    {reached : List Component} (surveyed : registry.Surveyed roots reached)
    (same : ∀ bound, other.Leads others bound ↔ registry.Leads roots bound) :
    other.Surveyed others reached := by
  intro component
  rw [surveyed component]
  constructor
  · rintro ⟨bound, leads, isComponent⟩
    exact ⟨bound, (same bound).mpr leads, isComponent⟩
  · rintro ⟨bound, leads, isComponent⟩
    exact ⟨bound, (same bound).mp leads, isComponent⟩

theorem Follows.congr {registry other : Registry} {members : List Dependency}
    {answer : Outcome (Except Probe.ClassifyError Probe.Classification)}
    (follows : registry.Follows members answer)
    (agree : ∀ name ∈ members.map Dependency.name, registry.AgreesOn other name) :
    other.Follows members answer := by
  unfold Follows at follows ⊢
  split at follows
  · obtain ⟨bound, component, held⟩ := follows
    refine ⟨bound, component, ?_⟩
    intro name inside
    rw [(agree name inside).1, (agree name inside).2]
    exact held name inside
  · intro name inside
    rw [(agree name inside).1, (agree name inside).2]
    exact follows name inside

end Registry

/-- A baseline file that the index knows. -/
def IsHost (settings : Settings) (name : String) : Prop :=
  name ∈ settings.baseline.toList ∧ settings.index.contains name = true

/-- The origin of what a settled group holds: the answer about it, the components that were
taken into account, and the baseline files from which they were looked up beside the
references of the group. -/
structure Attribution (settings : Settings) (session : Session) (members : List Dependency)
    (hosts : List String) (reached : List Component)
    (answer : Outcome (Except Probe.ClassifyError Probe.Classification)) : Prop where
  hostsAre : ∀ name ∈ hosts, IsHost settings name ∧ session.registry.isSettled name = true
  surveyed : session.registry.Surveyed (Component.outwardReferences members ++ hosts) reached
  isAnswer : IsAnswer settings members reached answer
  follows : session.registry.Follows members answer
  /-- All indexed baseline files counted, or the group is reached from one of them. -/
  complete : (∀ name, IsHost settings name → name ∈ hosts) ∨
    ∃ host, IsHost settings host ∧ ∀ name ∈ members.map Dependency.name,
      Memo.Reaches session.memo host name

/-- Every settled group was attributed. -/
def Attributed (settings : Settings) (session : Session) : Prop :=
  ∀ members, Memo.IsGroup session.memo members →
    (∀ name ∈ members.map Dependency.name, session.registry.isSettled name = true) →
      ∃ hosts reached answer, Attribution settings session members hosts reached answer

/-- The baseline files that the index knows are settled. -/
def BaselineSettled (settings : Settings) (session : Session) : Prop :=
  ∀ name, IsHost settings name → session.registry.isSettled name = true

theorem BaselineSettled.later {settings : Settings} {before after : Session}
    (ready : BaselineSettled settings before) (later : Later before after) :
    BaselineSettled settings after :=
  fun name isHost => later.isSettled (ready name isHost)

section

variable {settings : Settings} {before after : Session} {members : List Dependency}
  {hosts : List String} {reached : List Component}
  {answer : Outcome (Except Probe.ClassifyError Probe.Classification)} {pending : List String}

theorem outward_settled (coherent : Coherent before.memo before.registry pending)
    (group : Memo.IsGroup before.memo members)
    (settled : ∀ name ∈ members.map Dependency.name, before.registry.isSettled name = true) :
    ∀ name ∈ Component.outwardReferences members, before.registry.isSettled name = true := by
  intro name outward
  obtain ⟨source, inside, refers⟩ := group.refers_of_outward outward
  exact coherent.closed source name (settled source inside) refers

theorem leads_iff_of_later (coherent : Coherent before.memo before.registry pending)
    (later : Later before after) {roots : List String}
    (rootsSettled : ∀ name ∈ roots, before.registry.isSettled name = true) (bound : Instance) :
    after.registry.Leads roots bound ↔ before.registry.Leads roots bound :=
  Registry.leads_iff_of_agree rootsSettled (fun name settled => (later.keeps name settled).1)
    (fun _ _ _ held _ member => coherent.settled_of_reference held member) bound

theorem Attribution.later (attribution : Attribution settings before members hosts reached answer)
    (coherent : Coherent before.memo before.registry pending) (later : Later before after)
    (group : Memo.IsGroup before.memo members)
    (settled : ∀ name ∈ members.map Dependency.name, before.registry.isSettled name = true) :
    Attribution settings after members hosts reached answer := by
  refine ⟨?_, ?_, attribution.isAnswer, ?_, ?_⟩
  · intro name isHost
    obtain ⟨known, hostSettled⟩ := attribution.hostsAre name isHost
    exact ⟨known, later.isSettled hostSettled⟩
  · refine attribution.surveyed.congr (leads_iff_of_later coherent later ?_)
    intro name member
    rcases List.mem_append.mp member with outward | isHost
    · exact outward_settled coherent group settled name outward
    · exact (attribution.hostsAre name isHost).2
  · exact attribution.follows.congr (fun name inside => later.keeps name (settled name inside))
  · rcases attribution.complete with all | ⟨host, isHost, leadsTo⟩
    · exact Or.inl all
    · exact Or.inr ⟨host, isHost, fun name inside => (leadsTo name inside).mono later.within⟩

/-- What was settled before a later moment keeps its attribution; only groups that are settled
anew need one. -/
theorem Attributed.later (attributed : Attributed settings before)
    (coherent : Coherent before.memo before.registry pending) (later : Later before after)
    (new : ∀ members, Memo.IsGroup after.memo members →
      (∀ name ∈ members.map Dependency.name, after.registry.isSettled name = true) →
      (∃ name ∈ members.map Dependency.name, before.registry.isSettled name = false) →
        ∃ hosts reached answer, Attribution settings after members hosts reached answer) :
    Attributed settings after := by
  intro members group settled
  by_cases fresh : ∃ name ∈ members.map Dependency.name, before.registry.isSettled name = false
  · exact new members group settled fresh
  · have wasSettled : ∀ name ∈ members.map Dependency.name,
        before.registry.isSettled name = true := by
      intro name inside
      by_contra notSettled
      exact fresh ⟨name, inside, Bool.not_eq_true _ ▸ notSettled⟩
    obtain ⟨member, present⟩ := List.exists_mem_of_ne_nil members group.nonempty
    have inside := List.mem_map_of_mem (f := Dependency.name) present
    obtain ⟨others, otherGroup, inOthers, _⟩ := coherent.grouped _ (wasSettled _ inside)
    have probed : ∀ name, before.registry.isSettled name = true →
        before.memo.contains name = true := fun _ nameSettled =>
      coherent.probed_of_settled nameSettled
    have grown : Memo.IsGroup after.memo others :=
      otherGroup.mono later.within probed coherent.closed (fun other otherPresent =>
        ((coherent.settles_of_settled otherGroup inOthers (wasSettled _ inside)).isSettled
          (List.mem_map_of_mem otherPresent)))
    have isSame := group.unique grown inside inOthers
    subst isSame
    obtain ⟨hosts, reached, answer, attribution⟩ := attributed members otherGroup wasSettled
    exact ⟨hosts, reached, answer, attribution.later coherent later otherGroup wasSettled⟩

end

end TexAtlas
