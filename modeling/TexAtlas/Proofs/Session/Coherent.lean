/-
Coherence of a registry with what is known about files. Between two operations every file
is either open or settled, settled files refer to settled files only, and the files of one
group are settled together: all bound to one instance, or all skipped. While a clustering is
worked on, the files of the layers to come are pending.
-/

import TexAtlas.Proofs.Registry.Export
import TexAtlas.Proofs.Session.Clustering
import TexAtlas.Session.Resolve

namespace TexAtlas

namespace Registry

/-- The members of a group are bound to one instance, which names just them and what they
refer to. -/
structure Holds (registry : Registry) (members : List Dependency) (bound : Instance) : Prop where
  fileNames : bound.component.fileNames = members.map Dependency.name
  references : bound.component.references = Component.outwardReferences members
  held : ∀ name ∈ members.map Dependency.name,
    registry.get? name = some bound ∧ registry.state name = .registered

/-- The members of a group are skipped and bound to nothing. -/
def Drops (registry : Registry) (members : List Dependency) : Prop :=
  ∀ name ∈ members.map Dependency.name,
    registry.get? name = none ∧ registry.state name = .skipped

/-- A group is settled as a whole. -/
def Settles (registry : Registry) (members : List Dependency) : Prop :=
  (∃ bound, registry.Holds members bound) ∨ registry.Drops members

/-- Two registries say the same about a name. -/
def AgreesOn (registry other : Registry) (name : String) : Prop :=
  other.get? name = registry.get? name ∧ other.state name = registry.state name

theorem AgreesOn.isSettled {registry other : Registry} {name : String}
    (agree : registry.AgreesOn other name) : other.isSettled name = registry.isSettled name := by
  rw [Registry.isSettled, agree.2]
  rfl

theorem Holds.congr {registry other : Registry} {members : List Dependency} {bound : Instance}
    (holds : registry.Holds members bound)
    (agree : ∀ name ∈ members.map Dependency.name, registry.AgreesOn other name) :
    other.Holds members bound := by
  refine ⟨holds.fileNames, holds.references, ?_⟩
  intro name inside
  rw [(agree name inside).1, (agree name inside).2]
  exact holds.held name inside

theorem Settles.congr {registry other : Registry} {members : List Dependency}
    (settles : registry.Settles members)
    (agree : ∀ name ∈ members.map Dependency.name, registry.AgreesOn other name) :
    other.Settles members := by
  rcases settles with ⟨bound, holds⟩ | drops
  · exact Or.inl ⟨bound, holds.congr agree⟩
  · refine Or.inr ?_
    intro name inside
    rw [(agree name inside).1, (agree name inside).2]
    exact drops name inside

theorem Settles.isSettled {registry : Registry} {members : List Dependency}
    (settles : registry.Settles members) {name : String}
    (inside : name ∈ members.map Dependency.name) : registry.isSettled name = true := by
  rw [Registry.isSettled_iff]
  rcases settles with ⟨bound, holds⟩ | drops
  · exact Or.inl (holds.held name inside).2
  · exact Or.inr (drops name inside).2

end Registry

/-- What holds between any two steps that work on a registry, apart from the files that are
pending. -/
structure Coherent (memo : Memo) (registry : Registry) (pending : List String) : Prop where
  named : memo.Named
  numbered : registry.Numbered
  below : ∀ name bound, registry.get? name = some bound → bound.number < registry.next
  waits : ∀ name ∈ pending, registry.get? name = none ∧ registry.state name = .clustered
  rests : ∀ name, name ∉ pending →
    (registry.get? name = none ∧ registry.state name = .unresolved) ∨
      registry.isSettled name = true
  grouped : ∀ name, registry.isSettled name = true →
    ∃ members, memo.IsGroup members ∧ name ∈ members.map Dependency.name ∧
      registry.Settles members
  closed : ∀ source target, registry.isSettled source = true → memo.Refers source target →
    registry.isSettled target = true

namespace Coherent

variable {memo : Memo} {registry : Registry} {pending : List String}

theorem empty : Coherent .empty .empty [] := by
  refine ⟨?_, ?_, ?_, ?_, fun name _ => Or.inl ⟨rfl, rfl⟩, ?_, ?_⟩
  · intro name dependency found
    cases found
  · intro left right first second held
    cases held
  · intro name bound held
    cases held
  · intro name impossible
    cases impossible
  · intro name impossible
    cases impossible
  · intro source target impossible
    cases impossible

theorem not_settled_of_pending (coherent : Coherent memo registry pending) {name : String}
    (inPending : name ∈ pending) : registry.isSettled name = false := by
  rw [Registry.isSettled, (coherent.waits name inPending).2]
  rfl

theorem untouched_of_not_settled (coherent : Coherent memo registry pending) {name : String}
    (notPending : name ∉ pending) (notSettled : registry.isSettled name = false) :
    registry.get? name = none ∧ registry.state name = .unresolved := by
  rcases coherent.rests name notPending with untouched | settled
  · exact untouched
  · rw [notSettled] at settled
    cases settled

theorem open_of_not_settled (coherent : Coherent memo registry pending) {name : String}
    (notSettled : registry.isSettled name = false) : registry.IsOpen name := by
  refine ⟨?_, notSettled⟩
  by_cases inPending : name ∈ pending
  · exact (coherent.waits name inPending).1
  · exact (coherent.untouched_of_not_settled inPending notSettled).1

theorem not_open_iff (coherent : Coherent memo registry pending) (name : String) :
    ¬registry.IsOpen name ↔ registry.isSettled name = true := by
  constructor
  · intro notOpen
    cases settled : registry.isSettled name with
    | true => rfl
    | false => exact absurd (coherent.open_of_not_settled settled) notOpen
  · intro settled isOpen
    rw [isOpen.2] at settled
    cases settled

theorem settles_of_settled (coherent : Coherent memo registry pending) {members : List Dependency}
    (group : memo.IsGroup members) {name : String} (inside : name ∈ members.map Dependency.name)
    (settled : registry.isSettled name = true) : registry.Settles members := by
  obtain ⟨others, otherGroup, insideOther, settles⟩ := coherent.grouped name settled
  rw [group.unique otherGroup inside insideOther]
  exact settles

theorem probed_of_settled (coherent : Coherent memo registry pending) {name : String}
    (settled : registry.isSettled name = true) : memo.contains name = true := by
  obtain ⟨members, group, inside, _⟩ := coherent.grouped name settled
  obtain ⟨member, present, rfl⟩ := List.mem_map.mp inside
  exact (NameMap.contains_iff memo _).mpr ⟨member, group.remembered member present⟩

/-- A bound name is registered, and its group is bound with it. -/
theorem holds_of_bound (coherent : Coherent memo registry pending) {name : String}
    {bound : Instance} (held : registry.get? name = some bound) :
    registry.isSettled name = true ∧ ∃ members, memo.IsGroup members ∧
      name ∈ members.map Dependency.name ∧ registry.Holds members bound := by
  have settled : registry.isSettled name = true := by
    rw [← coherent.not_open_iff]
    intro isOpen
    rw [isOpen.1] at held
    cases held
  refine ⟨settled, ?_⟩
  obtain ⟨members, group, inside, settles⟩ := coherent.grouped name settled
  rcases settles with ⟨other, holds⟩ | drops
  · rw [(holds.held name inside).1] at held
    cases held
    exact ⟨members, group, inside, holds⟩
  · rw [(drops name inside).1] at held
    cases held

theorem boundExactly (coherent : Coherent memo registry pending) : registry.BoundExactly := by
  intro name bound held other
  obtain ⟨_, members, _, _, holds⟩ := coherent.holds_of_bound held
  constructor
  · intro otherHeld
    obtain ⟨_, others, _, inside, otherHolds⟩ := coherent.holds_of_bound otherHeld
    rw [otherHolds.fileNames]
    exact inside
  · intro inNames
    rw [holds.fileNames] at inNames
    exact (holds.held other inNames).1

theorem bound_of_registered (coherent : Coherent memo registry pending) {name : String}
    (registered : registry.state name = .registered) :
    ∃ bound, registry.get? name = some bound ∧ name ∈ bound.component.fileNames := by
  have settled := (registry.isSettled_iff name).mpr (Or.inl registered)
  obtain ⟨members, _, inside, ⟨bound, holds⟩ | drops⟩ := coherent.grouped name settled
  · exact ⟨bound, (holds.held name inside).1, holds.fileNames ▸ inside⟩
  · rw [(drops name inside).2] at registered
    cases registered

theorem registered_of_bound (coherent : Coherent memo registry pending) {name : String}
    {bound : Instance} (held : registry.get? name = some bound) :
    registry.state name = .registered ∧ name ∈ bound.component.fileNames := by
  obtain ⟨_, members, _, inside, holds⟩ := coherent.holds_of_bound held
  exact ⟨(holds.held name inside).2, holds.fileNames ▸ inside⟩

theorem bound_iff_registered (coherent : Coherent memo registry pending) (name : String) :
    (∃ bound, registry.get? name = some bound) ↔ registry.state name = .registered := by
  constructor
  · rintro ⟨bound, held⟩
    exact (coherent.registered_of_bound held).1
  · intro registered
    obtain ⟨bound, held, _⟩ := coherent.bound_of_registered registered
    exact ⟨bound, held⟩

/-- A settled file is unbound just if it was skipped. -/
theorem unbound_iff_skipped (coherent : Coherent memo registry pending) {name : String}
    (settled : registry.isSettled name = true) :
    registry.get? name = none ↔ registry.state name = .skipped := by
  constructor
  · intro unbound
    rcases (registry.isSettled_iff name).mp settled with registered | skipped
    · obtain ⟨bound, held, _⟩ := coherent.bound_of_registered registered
      rw [unbound] at held
      cases held
    · exact skipped
  · intro skipped
    cases held : registry.get? name with
    | none => rfl
    | some bound =>
        rw [(coherent.registered_of_bound held).1] at skipped
        cases skipped

section

variable {others : Memo} {other : Registry} {waiting : List String}

theorem components_congr (coherent : Coherent memo registry pending)
    (otherCoherent : Coherent others other waiting)
    (alike : ∀ name, registry.AlikeOn other name) : other.components = registry.components :=
  Registry.components_congr alike coherent.numbered coherent.boundExactly otherCoherent.numbered
    otherCoherent.boundExactly

theorem shares_congr (coherent : Coherent memo registry pending)
    (otherCoherent : Coherent others other waiting)
    (alike : ∀ name, registry.AlikeOn other name) (left right : String) :
    other.shares left right = registry.shares left right :=
  Registry.shares_congr alike coherent.numbered coherent.boundExactly otherCoherent.numbered
    otherCoherent.boundExactly left right

end

theorem open_of_unbound (coherent : Coherent memo registry pending) {name : String}
    (unbound : registry.get? name = none) (notSkipped : registry.isSkipped name = false) :
    registry.IsOpen name := by
  by_contra notOpen
  have settled := (coherent.not_open_iff name).mp notOpen
  have skipped := (coherent.unbound_iff_skipped settled).mp unbound
  rw [(registry.isSkipped_iff name).mpr skipped] at notSkipped
  cases notSkipped

theorem settled_of_reference (coherent : Coherent memo registry pending) {name other : String}
    {bound : Instance} (held : registry.get? name = some bound)
    (referenced : other ∈ bound.component.references) : registry.isSettled other = true := by
  obtain ⟨_, members, group, _, holds⟩ := coherent.holds_of_bound held
  rw [holds.references] at referenced
  obtain ⟨source, inside, refers⟩ := group.refers_of_outward referenced
  exact coherent.closed source other
    (Registry.Settles.isSettled (Or.inl ⟨bound, holds⟩) inside) refers

/-- More knowledge about files does not disturb what is settled. -/
theorem grow (coherent : Coherent memo registry pending) {later : Memo}
    (within : memo.Within later) (named : later.Named) : Coherent later registry pending := by
  refine ⟨named, coherent.numbered, coherent.below, coherent.waits, coherent.rests, ?_, ?_⟩
  · intro name settled
    obtain ⟨members, group, inside, settles⟩ := coherent.grouped name settled
    have probed : ∀ other, registry.isSettled other = true → memo.contains other = true :=
      fun _ otherSettled => coherent.probed_of_settled otherSettled
    exact ⟨members, group.mono within probed coherent.closed
      (fun member present => settles.isSettled (List.mem_map_of_mem present)), inside, settles⟩
  · intro source target settled refers
    exact coherent.closed source target settled
      (refers.back within (coherent.probed_of_settled settled))

end Coherent

/-! ### Marking the members of a clustering -/

namespace Session

private theorem get?_markNames (names : List String) (registry : Registry) (other : String) :
    (names.foldl (fun registry name =>
        (registry.advance name .dependenciesDiscovered).advance name .clustered)
          registry).get? other =
      registry.get? other := by
  induction names generalizing registry with
  | nil => rfl
  | cons name rest ih => exact ih _

private theorem next_markNames (names : List String) (registry : Registry) :
    (names.foldl (fun registry name =>
        (registry.advance name .dependenciesDiscovered).advance name .clustered) registry).next =
      registry.next := by
  induction names generalizing registry with
  | nil => rfl
  | cons name rest ih => exact ih _

private theorem state_markNames (names : List String) (registry : Registry) (other : String) :
    (names.foldl (fun registry name =>
        (registry.advance name .dependenciesDiscovered).advance name .clustered)
          registry).state other =
      if other ∈ names then
        ((registry.state other).move .dependenciesDiscovered).move .clustered
      else registry.state other := by
  induction names generalizing registry with
  | nil => rfl
  | cons name rest ih =>
      rw [List.foldl_cons, ih, Registry.state_advance, Registry.state_advance,
        Registry.state_advance]
      by_cases same : name = other
      · subst same
        simp only [if_true, List.mem_cons, true_or]
        split
        · cases registry.state name <;> rfl
        · rfl
      · have different : ¬other = name := fun equal => same equal.symm
        simp [same, different]

theorem get?_markMembers (clustering : Clustering) (registry : Registry) (name : String) :
    (markMembers clustering registry).get? name = registry.get? name :=
  get?_markNames _ registry name

theorem next_markMembers (clustering : Clustering) (registry : Registry) :
    (markMembers clustering registry).next = registry.next :=
  next_markNames _ registry

theorem state_markMembers (clustering : Clustering) (registry : Registry) (name : String) :
    (markMembers clustering registry).state name =
      if name ∈ Clustering.namesOf clustering.components then
        ((registry.state name).move .dependenciesDiscovered).move .clustered
      else registry.state name :=
  state_markNames _ registry name

theorem agree_markMembers {clustering : Clustering} (registry : Registry) {name : String}
    (absent : name ∉ Clustering.namesOf clustering.components) :
    registry.AgreesOn (markMembers clustering registry) name :=
  ⟨get?_markMembers clustering registry name,
    (state_markMembers clustering registry name).trans (if_neg absent)⟩

end Session

namespace Coherent

variable {memo : Memo} {registry : Registry} {pending : List String}

/-- Marking the open files of a clustering makes them pending. -/
theorem mark (coherent : Coherent memo registry []) {clustering : Clustering}
    {names : List String}
    (namesAre : ∀ name, name ∈ names ↔ name ∈ Clustering.namesOf clustering.components)
    (isOpen : ∀ name ∈ names, registry.IsOpen name) :
    Coherent memo (Session.markMembers clustering registry) names := by
  have unresolved : ∀ name ∈ names, registry.state name = .unresolved := by
    intro name member
    rcases coherent.rests name List.not_mem_nil with ⟨_, unresolved⟩ | settled
    · exact unresolved
    · rw [(isOpen name member).2] at settled
      cases settled
  have settled_is : ∀ name, (Session.markMembers clustering registry).isSettled name =
      registry.isSettled name := by
    intro name
    rw [Registry.isSettled, Registry.isSettled, Session.state_markMembers]
    split
    · rename_i member
      rw [unresolved name ((namesAre name).mpr member)]
      rfl
    · rfl
  have agree : ∀ name, registry.isSettled name = true →
      registry.AgreesOn (Session.markMembers clustering registry) name := by
    intro name settled
    refine Session.agree_markMembers registry ?_
    intro member
    rw [(isOpen name ((namesAre name).mpr member)).2] at settled
    cases settled
  refine ⟨coherent.named, ?_, ?_, ?_, ?_, ?_, ?_⟩
  · intro left right first second leftHeld rightHeld
    rw [Session.get?_markMembers] at leftHeld rightHeld
    exact coherent.numbered left right first second leftHeld rightHeld
  · intro name bound held
    rw [Session.get?_markMembers] at held
    rw [Session.next_markMembers]
    exact coherent.below name bound held
  · intro name member
    rw [Session.get?_markMembers, Session.state_markMembers, if_pos ((namesAre name).mp member),
      unresolved name member]
    exact ⟨(isOpen name member).1, rfl⟩
  · intro name absent
    rw [Session.get?_markMembers, settled_is, Session.state_markMembers,
      if_neg (fun member => absent ((namesAre name).mpr member))]
    exact coherent.rests name List.not_mem_nil
  · intro name settled
    rw [settled_is] at settled
    obtain ⟨members, group, inside, settles⟩ := coherent.grouped name settled
    exact ⟨members, group, inside, settles.congr (fun other otherInside =>
      agree other (settles.isSettled otherInside))⟩
  · intro source target settled refers
    rw [settled_is] at settled ⊢
    exact coherent.closed source target settled refers

end Coherent

/-! ### Settling a layer -/

/-- A layer was worked on: its groups are settled, each under an instance of its own, and
nothing else changed. -/
structure LayerDone (layer : List (List Dependency)) (registry final : Registry) : Prop where
  agree : ∀ name, name ∉ Clustering.namesOf layer → registry.AgreesOn final name
  next_le : registry.next ≤ final.next
  settles : ∀ members ∈ layer, final.Settles members
  fresh : ∀ name ∈ Clustering.namesOf layer, ∀ bound, final.get? name = some bound →
    registry.next ≤ bound.number ∧ bound.number < final.next
  numbered : ∀ left ∈ Clustering.namesOf layer, ∀ right ∈ Clustering.namesOf layer,
    ∀ first second, final.get? left = some first → final.get? right = some second →
      first.number = second.number → first = second

/-- Work on a layer makes nothing but its own files settled. -/
theorem LayerDone.isSettled_iff {layer : List (List Dependency)} {registry final : Registry}
    (done : LayerDone layer registry final) (name : String) :
    final.isSettled name = true ↔
      registry.isSettled name = true ∨ name ∈ Clustering.namesOf layer := by
  by_cases inLayer : name ∈ Clustering.namesOf layer
  · obtain ⟨members, isGroup, inside⟩ := (Clustering.mem_namesOf layer name).mp inLayer
    have settled := (done.settles members isGroup).isSettled inside
    exact ⟨fun _ => Or.inr inLayer, fun _ => settled⟩
  · rw [(done.agree name inLayer).isSettled]
    exact ⟨Or.inl, fun place => place.resolve_right inLayer⟩

namespace Coherent

variable {memo : Memo} {registry final : Registry} {pending rest : List String}

theorem numbered_of_layerDone {layer : List (List Dependency)}
    (coherent : Coherent memo registry pending) (done : LayerDone layer registry final) :
    final.Numbered := by
  intro left right first second leftHeld rightHeld sameNumber
  by_cases leftInLayer : left ∈ Clustering.namesOf layer
  · by_cases rightInLayer : right ∈ Clustering.namesOf layer
    · exact done.numbered left leftInLayer right rightInLayer first second leftHeld rightHeld
        sameNumber
    · have fresh := (done.fresh left leftInLayer first leftHeld).1
      rw [(done.agree right rightInLayer).1] at rightHeld
      have old := coherent.below right second rightHeld
      omega
  · rw [(done.agree left leftInLayer).1] at leftHeld
    by_cases rightInLayer : right ∈ Clustering.namesOf layer
    · have fresh := (done.fresh right rightInLayer second rightHeld).1
      have old := coherent.below left first leftHeld
      omega
    · rw [(done.agree right rightInLayer).1] at rightHeld
      exact coherent.numbered left right first second leftHeld rightHeld sameNumber

/-- Once a layer was worked on only the later layers are pending. -/
theorem settle_layer {layer : List (List Dependency)}
    (coherent : Coherent memo registry (Clustering.namesOf layer ++ rest))
    (distinct : (Clustering.namesOf layer ++ rest).Nodup)
    (groups : ∀ members ∈ layer, memo.IsGroup members)
    (downward : ∀ members ∈ layer, ∀ name ∈ Component.outwardReferences members,
      registry.isSettled name = true)
    (done : LayerDone layer registry final) : Coherent memo final rest := by
  have apart := (List.nodup_append.mp distinct).2.2
  have notSettled : ∀ name ∈ Clustering.namesOf layer, registry.isSettled name = false :=
    fun name inLayer => coherent.not_settled_of_pending (List.mem_append_left rest inLayer)
  have settled_of : ∀ name, registry.isSettled name = true → registry.AgreesOn final name := by
    intro name settled
    refine done.agree name ?_
    intro inLayer
    rw [notSettled name inLayer] at settled
    cases settled
  have settledInLayer : ∀ name ∈ Clustering.namesOf layer, final.isSettled name = true := by
    intro name inLayer
    obtain ⟨members, isGroup, inside⟩ := (Clustering.mem_namesOf layer name).mp inLayer
    exact (done.settles members isGroup).isSettled inside
  have keeps : ∀ name, registry.isSettled name = true → final.isSettled name = true := by
    intro name settled
    rw [(settled_of name settled).isSettled]
    exact settled
  refine ⟨coherent.named, ?_, ?_, ?_, ?_, ?_, ?_⟩
  · exact coherent.numbered_of_layerDone done
  · intro name bound held
    by_cases inLayer : name ∈ Clustering.namesOf layer
    · exact (done.fresh name inLayer bound held).2
    · rw [(done.agree name inLayer).1] at held
      exact Nat.lt_of_lt_of_le (coherent.below name bound held) done.next_le
  · intro name inRest
    have outside : name ∉ Clustering.namesOf layer :=
      fun inLayer => apart name inLayer name inRest rfl
    rw [(done.agree name outside).1, (done.agree name outside).2]
    exact coherent.waits name (List.mem_append_right _ inRest)
  · intro name absent
    by_cases inLayer : name ∈ Clustering.namesOf layer
    · exact Or.inr (settledInLayer name inLayer)
    · rw [(done.agree name inLayer).1, (done.agree name inLayer).2,
        (done.agree name inLayer).isSettled]
      refine coherent.rests name ?_
      intro member
      rcases List.mem_append.mp member with inThis | inRest
      · exact inLayer inThis
      · exact absent inRest
  · intro name settled
    by_cases inLayer : name ∈ Clustering.namesOf layer
    · obtain ⟨members, isGroup, inside⟩ := (Clustering.mem_namesOf layer name).mp inLayer
      exact ⟨members, groups members isGroup, inside, done.settles members isGroup⟩
    · rw [(done.agree name inLayer).isSettled] at settled
      obtain ⟨members, group, inside, settles⟩ := coherent.grouped name settled
      exact ⟨members, group, inside, settles.congr (fun other otherInside =>
        settled_of other (settles.isSettled otherInside))⟩
  · intro source target settled refers
    by_cases inLayer : source ∈ Clustering.namesOf layer
    · obtain ⟨members, isGroup, inside⟩ := (Clustering.mem_namesOf layer source).mp inLayer
      rcases (groups members isGroup).inside_or_outward inside refers with sameGroup | outward
      · exact (done.settles members isGroup).isSettled sameGroup
      · exact keeps target (downward members isGroup target outward)
    · rw [(done.agree source inLayer).isSettled] at settled
      exact keeps target (coherent.closed source target settled refers)

end Coherent

end TexAtlas
