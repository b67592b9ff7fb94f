/-
The reference graph of a session: what the files probed so far refer to. The graph grows
with every probe, but what is known about a file never changes, so a set of probed files
that no reference leaves looks the same ever after. Files that reach each other form a
group.
-/

import Mathlib.Logic.Relation
import TexAtlas.Proofs.References

namespace TexAtlas

/-- What the files probed so far load. -/
abbrev Memo := NameMap Dependency

namespace Memo

variable {memo later : Memo}

/-- Every file is remembered under its own name. -/
def Named (memo : Memo) : Prop :=
  ∀ name dependency, memo.get? name = some dependency → dependency.name = name

/-- What is remembered stays the same in a later memo. -/
def Within (memo later : Memo) : Prop :=
  ∀ name dependency, memo.get? name = some dependency → later.get? name = some dependency

theorem Within.refl (memo : Memo) : memo.Within memo :=
  fun _ _ found => found

theorem Within.trans {last : Memo} (first : memo.Within later) (second : later.Within last) :
    memo.Within last :=
  fun name dependency found => second name dependency (first name dependency found)

theorem Within.contains (within : memo.Within later) {name : String}
    (probed : memo.contains name = true) : later.contains name = true := by
  obtain ⟨dependency, found⟩ := (NameMap.contains_iff memo name).mp probed
  exact (NameMap.contains_iff later name).mpr ⟨dependency, within name dependency found⟩

/-- A probed file refers to a class or style. -/
def Refers (memo : Memo) (source target : String) : Prop :=
  ∃ dependency, memo.get? source = some dependency ∧ target ∈ dependency.referenceNames

/-- A chain of references leads from one file to another. -/
def Reaches (memo : Memo) : String → String → Prop :=
  Relation.ReflTransGen memo.Refers

/-- Two files reach each other. -/
def Together (memo : Memo) (left right : String) : Prop :=
  memo.Reaches left right ∧ memo.Reaches right left

theorem Refers.mono (within : memo.Within later) {source target : String}
    (refers : memo.Refers source target) : later.Refers source target := by
  obtain ⟨dependency, found, member⟩ := refers
  exact ⟨dependency, within source dependency found, member⟩

theorem Refers.isComponent {source target : String} (refers : memo.Refers source target) :
    (Role.ofName target).isComponent = true := by
  obtain ⟨dependency, _, isReference⟩ := refers
  obtain ⟨file, referenced, rfl⟩ := (Dependency.mem_referenceNames _ _).mp isReference
  exact (Dependency.mem_references referenced).2.2

theorem Reaches.mono (within : memo.Within later) {source target : String}
    (reaches : memo.Reaches source target) : later.Reaches source target :=
  Relation.ReflTransGen.mono (fun _ _ refers => refers.mono within) _ _ reaches

theorem Together.refl (memo : Memo) (name : String) : memo.Together name name :=
  ⟨.refl, .refl⟩

theorem Together.symm {left right : String} (both : memo.Together left right) :
    memo.Together right left :=
  ⟨both.2, both.1⟩

theorem Together.trans {first second third : String} (left : memo.Together first second)
    (right : memo.Together second third) : memo.Together first third :=
  ⟨left.1.trans right.1, right.2.trans left.2⟩

theorem Together.mono (within : memo.Within later) {left right : String}
    (both : memo.Together left right) : later.Together left right :=
  ⟨both.1.mono within, both.2.mono within⟩

theorem Reaches.stays {inside : String → Prop}
    (closed : ∀ source target, inside source → memo.Refers source target → inside target)
    {source target : String} (reaches : memo.Reaches source target) (start : inside source) :
    inside target := by
  induction reaches with
  | refl => exact start
  | tail _ refers ih => exact closed _ _ ih refers

theorem probed_of_refers {source target : String} (refers : memo.Refers source target) :
    memo.contains source = true := by
  obtain ⟨dependency, found, _⟩ := refers
  exact (NameMap.contains_iff memo source).mpr ⟨dependency, found⟩

theorem Refers.back (within : memo.Within later) {source target : String}
    (probed : memo.contains source = true) (refers : later.Refers source target) :
    memo.Refers source target := by
  obtain ⟨dependency, found⟩ := (NameMap.contains_iff memo source).mp probed
  obtain ⟨other, otherFound, member⟩ := refers
  rw [within source dependency found] at otherFound
  cases otherFound
  exact ⟨dependency, found, member⟩

/-- From a set of probed files that no reference leaves nothing new can be reached. -/
theorem Reaches.back (within : memo.Within later) {inside : String → Prop}
    (probed : ∀ name, inside name → memo.contains name = true)
    (closed : ∀ source target, inside source → memo.Refers source target → inside target)
    {source target : String} (reaches : later.Reaches source target) (start : inside source) :
    memo.Reaches source target ∧ inside target := by
  induction reaches with
  | refl => exact ⟨.refl, start⟩
  | tail _ refers ih =>
      have before := refers.back within (probed _ ih.2)
      exact ⟨ih.1.tail before, closed _ _ ih.2 before⟩

theorem Together.back (within : memo.Within later) {inside : String → Prop}
    (probed : ∀ name, inside name → memo.contains name = true)
    (closed : ∀ source target, inside source → memo.Refers source target → inside target)
    {left right : String} (both : later.Together left right) (start : inside left) :
    memo.Together left right ∧ inside right := by
  obtain ⟨forth, rightInside⟩ := both.1.back within probed closed start
  exact ⟨⟨forth, (both.2.back within probed closed rightInside).1⟩, rightInside⟩

/-- The files of one strongly connected part of the reference graph, by ascending name. -/
structure IsGroup (memo : Memo) (members : List Dependency) : Prop where
  nonempty : members ≠ []
  ascending : (members.map Dependency.name).Pairwise (· < ·)
  remembered : ∀ member ∈ members, memo.get? member.name = some member
  exact : ∀ member ∈ members, ∀ other,
    other ∈ members.map Dependency.name ↔ memo.Together member.name other

theorem IsGroup.exact_name {members : List Dependency} (group : memo.IsGroup members)
    {name : String} (inside : name ∈ members.map Dependency.name) (other : String) :
    other ∈ members.map Dependency.name ↔ memo.Together name other := by
  obtain ⟨member, present, rfl⟩ := List.mem_map.mp inside
  exact group.exact member present other

theorem IsGroup.lead_le {lead : Dependency} {rest : List Dependency}
    (group : memo.IsGroup (lead :: rest)) {name : String}
    (inside : name ∈ (lead :: rest).map Dependency.name) : lead.name ≤ name := by
  rcases List.mem_cons.mp inside with rfl | inRest
  · exact String.le_refl _
  · exact String.not_lt.mp (String.lt_asymm (List.rel_of_pairwise_cons group.ascending inRest))

theorem IsGroup.inside_or_outward {members : List Dependency} (group : memo.IsGroup members)
    {source target : String} (inside : source ∈ members.map Dependency.name)
    (refers : memo.Refers source target) :
    target ∈ members.map Dependency.name ∨ target ∈ Component.outwardReferences members := by
  by_cases targetInside : target ∈ members.map Dependency.name
  · exact Or.inl targetInside
  · obtain ⟨member, present, rfl⟩ := List.mem_map.mp inside
    obtain ⟨dependency, found, isReference⟩ := refers
    rw [group.remembered member present] at found
    cases found
    exact Or.inr ((Component.mem_outwardReferences members target).mpr
      ⟨⟨member, present, isReference⟩, targetInside⟩)

theorem IsGroup.refers_of_outward {members : List Dependency} (group : memo.IsGroup members)
    {target : String} (outward : target ∈ Component.outwardReferences members) :
    ∃ source ∈ members.map Dependency.name, memo.Refers source target := by
  obtain ⟨⟨member, present, isReference⟩, _⟩ :=
    (Component.mem_outwardReferences members target).mp outward
  exact ⟨member.name, List.mem_map_of_mem present, member, group.remembered member present,
    isReference⟩

theorem eq_of_names_eq {left right : List Dependency}
    (leftKnown : ∀ member ∈ left, memo.get? member.name = some member)
    (rightKnown : ∀ member ∈ right, memo.get? member.name = some member)
    (same : left.map Dependency.name = right.map Dependency.name) : left = right := by
  induction left generalizing right with
  | nil => exact (List.map_eq_nil_iff.mp same.symm).symm
  | cons head tail ih =>
      cases right with
      | nil => cases same
      | cons other rest =>
          rw [List.map_cons, List.map_cons, List.cons.injEq] at same
          have headIs := leftKnown head (List.mem_cons_self ..)
          have otherIs := rightKnown other (List.mem_cons_self ..)
          rw [same.1, otherIs] at headIs
          rw [Option.some.inj headIs, ih (fun member inside =>
            leftKnown member (List.mem_cons_of_mem head inside)) (fun member inside =>
              rightKnown member (List.mem_cons_of_mem other inside)) same.2]

theorem IsGroup.unique {left right : List Dependency} (leftGroup : memo.IsGroup left)
    (rightGroup : memo.IsGroup right) {name : String}
    (inLeft : name ∈ left.map Dependency.name) (inRight : name ∈ right.map Dependency.name) :
    left = right := by
  refine eq_of_names_eq leftGroup.remembered rightGroup.remembered ?_
  refine SortedNames.ascending_unique leftGroup.ascending rightGroup.ascending ?_
  intro other
  rw [leftGroup.exact_name inLeft, rightGroup.exact_name inRight]

/-- A group of probed files that nothing leaves is a group in every later memo. -/
theorem IsGroup.mono (within : memo.Within later) {inside : String → Prop}
    (probed : ∀ name, inside name → memo.contains name = true)
    (closed : ∀ source target, inside source → memo.Refers source target → inside target)
    {members : List Dependency} (group : memo.IsGroup members)
    (start : ∀ member ∈ members, inside member.name) : later.IsGroup members := by
  refine ⟨group.nonempty, group.ascending, ?_, ?_⟩
  · intro member present
    exact within _ _ (group.remembered member present)
  · intro member present other
    rw [group.exact member present other]
    constructor
    · exact fun both => both.mono within
    · exact fun both => (both.back within probed closed (start member present)).1

end Memo

end TexAtlas
