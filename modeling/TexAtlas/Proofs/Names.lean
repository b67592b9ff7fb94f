/-
What the collections of names hold. Maps are described by their answers, sets by their
members; a list in strictly ascending order is fixed by its members alone.
-/

import Mathlib.Data.List.Induction
import Mathlib.Data.List.Sort
import TexAtlas.Name.Distinct
import TexAtlas.Name.Map
import TexAtlas.Name.Sorted

namespace TexAtlas

/-- What single steps of a fold add, all steps add together. -/
theorem foldl_iff {α β : Type} {step : α → β → α} {adds : β → Prop} (holds : α → Prop)
    (each : ∀ start item, holds (step start item) ↔ holds start ∨ adds item)
    (items : List β) (start : α) :
    holds (items.foldl step start) ↔ holds start ∨ ∃ item ∈ items, adds item := by
  induction items generalizing start with
  | nil => simp
  | cons item items ih =>
      rw [List.foldl_cons, ih, each, or_assoc]
      simp only [List.mem_cons, exists_eq_or_imp]

namespace NameMap

variable {α : Type}

theorem find_eq_none_iff (entries : List (String × α)) (name : String) :
    find entries name = none ↔ name ∉ entries.map Prod.fst := by
  induction entries with
  | nil => simp [find]
  | cons entry rest ih =>
      unfold find
      split
      · rename_i same
        simp [same]
      · rename_i different
        rw [ih, List.map_cons, List.mem_cons, not_or]
        constructor
        · intro absent
          exact ⟨fun equal => different equal.symm, absent⟩
        · exact And.right

theorem mem_of_find {entries : List (String × α)} {name : String} {value : α}
    (found : find entries name = some value) : (name, value) ∈ entries := by
  induction entries with
  | nil => cases found
  | cons entry rest ih =>
      unfold find at found
      split at found
      · rename_i same
        cases found
        exact List.mem_cons.mpr (Or.inl (by rw [← same]))
      · exact List.mem_cons_of_mem entry (ih found)

theorem find_of_mem {entries : List (String × α)} {name : String} {value : α}
    (distinct : (entries.map Prod.fst).Nodup) (member : (name, value) ∈ entries) :
    find entries name = some value := by
  induction entries with
  | nil => cases member
  | cons entry rest ih =>
      rw [List.map_cons, List.nodup_cons] at distinct
      unfold find
      rcases List.mem_cons.mp member with same | later
      · rw [← same, if_pos rfl]
      · have different : ¬entry.1 = name := by
          intro equal
          exact distinct.1 (equal ▸ List.mem_map_of_mem later)
        rw [if_neg different]
        exact ih distinct.2 later

theorem contains_iff (map : NameMap α) (name : String) :
    map.contains name = true ↔ ∃ value, map.get? name = some value := by
  rw [contains, Option.isSome_iff_exists]

theorem contains_eq_false_iff (map : NameMap α) (name : String) :
    map.contains name = false ↔ map.get? name = none := by
  rw [contains, Option.isSome_eq_false_iff, Option.isNone_iff_eq_none]

theorem mem_keys_iff (map : NameMap α) (name : String) :
    name ∈ map.keys ↔ map.contains name = true := by
  rw [← not_iff_not, Bool.not_eq_true, contains_eq_false_iff]
  exact (find_eq_none_iff map.entries name).symm

theorem mem_entries_iff (map : NameMap α) (name : String) (value : α) :
    (name, value) ∈ map.entries ↔ map.get? name = some value :=
  ⟨find_of_mem map.distinct, mem_of_find⟩

theorem mem_values_of_get? {map : NameMap α} {name : String} {value : α}
    (found : map.get? name = some value) : value ∈ map.values :=
  List.mem_map.mpr ⟨(name, value), mem_of_find found, rfl⟩

theorem exists_get?_of_mem_values {map : NameMap α} {value : α}
    (member : value ∈ map.values) : ∃ name, map.get? name = some value := by
  obtain ⟨entry, present, rfl⟩ := List.mem_map.mp member
  exact ⟨entry.1, find_of_mem map.distinct present⟩

theorem contains_insert (map : NameMap α) (name other : String) (value : α) :
    (map.insert name value).contains other = true ↔
      name = other ∨ map.contains other = true := by
  rw [contains, get?_insert]
  split
  · rename_i same
    simp [same]
  · rename_i different
    simp [different, contains]

theorem put_length (name : String) (value : α) (entries : List (String × α)) :
    (put name value entries).length =
      if name ∈ entries.map Prod.fst then entries.length else entries.length + 1 := by
  induction entries with
  | nil => simp [put]
  | cons entry rest ih =>
      unfold put
      split
      · rename_i same
        simp [same]
      · rename_i different
        have apart : ¬name = entry.1 := fun equal => different equal.symm
        simp only [List.length_cons, ih, List.map_cons, List.mem_cons, apart, false_or]
        split <;> rfl

theorem size_insert_of_absent (map : NameMap α) (name : String) (value : α)
    (absent : map.get? name = none) : (map.insert name value).size = map.size + 1 := by
  have missing := (find_eq_none_iff map.entries name).mp absent
  change (put name value map.entries).length = map.entries.length + 1
  rw [put_length, if_neg missing]

/-- Setting the entries of a list one by one leaves, for distinct names, exactly the
value the list has for a name, and the old one where it has none. -/
theorem get?_foldl_insert (entries : List (String × α))
    (distinct : (entries.map Prod.fst).Nodup) (map : NameMap α) (name : String) :
    (entries.foldl (fun map entry => map.insert entry.1 entry.2) map).get? name =
      (find entries name).or (map.get? name) := by
  induction entries generalizing map with
  | nil => rfl
  | cons entry rest ih =>
      rw [List.map_cons, List.nodup_cons] at distinct
      rw [List.foldl_cons, ih distinct.2, get?_insert, find]
      by_cases same : entry.1 = name
      · have absent := (find_eq_none_iff rest name).mpr (same ▸ distinct.1)
        rw [absent, if_pos same, if_pos same]
        rfl
      · rw [if_neg same, if_neg same]

theorem get?_ofList (entries : List (String × α))
    (distinct : (entries.map Prod.fst).Nodup) (name : String) :
    (ofList entries).get? name = find entries name := by
  rw [ofList, get?_foldl_insert entries distinct, get?_empty, Option.or_none]

theorem find_map {β : Type} (change : String → α → β) (entries : List (String × α))
    (name : String) :
    find (entries.map (fun entry => (entry.1, change entry.1 entry.2))) name =
      (find entries name).map (change name) := by
  induction entries with
  | nil => rfl
  | cons entry rest ih =>
      rw [List.map_cons]
      unfold find
      by_cases same : entry.1 = name
      · simp [same]
      · simp [same, ih]

end NameMap

namespace NameSet

theorem contains_iff (names : NameSet) (name : String) :
    names.contains name = true ↔ name ∈ names.toList :=
  List.contains_iff_mem

private theorem eraseDups_of_nodup {names : List String} (distinct : names.Nodup) :
    names.eraseDups = names := by
  induction names with
  | nil => rfl
  | cons name rest ih =>
      rw [List.nodup_cons] at distinct
      have apart : rest.filter (fun other => !other == name) = rest := by
        apply List.filter_eq_self.mpr
        intro other inside
        simp only [Bool.not_eq_true', beq_eq_false_iff_ne]
        rintro rfl
        exact distinct.1 inside
      rw [List.eraseDups_cons, apart, ih distinct.2]

/-- Names that are added come after those already present, each at its first place. -/
theorem toList_extend (names : NameSet) (more : List String) :
    (names.extend more).toList = (names.toList ++ more).eraseDups := by
  induction more using List.reverseRecOn with
  | nil =>
      rw [List.append_nil, eraseDups_of_nodup names.distinct]
      rfl
  | append_singleton more last ih =>
      have step : names.extend (more ++ [last]) = (names.extend more).insert last := by
        rw [extend, extend, List.foldl_append]
        rfl
      rw [step, ← List.append_assoc, List.eraseDups_append, ← ih, insert]
      by_cases present : last ∈ names.toList ++ more
      · have held : last ∈ (names.extend more).toList := by
          rw [ih]
          exact List.mem_eraseDups.mpr present
        have nothing : [last].removeAll (names.toList ++ more) = [] := by
          simpa [List.removeAll, or_iff_not_imp_left] using present
        rw [dif_pos held, nothing, List.eraseDups_nil, List.append_nil]
      · have absent : last ∉ (names.extend more).toList := by
          rw [ih]
          exact fun held => present (List.mem_eraseDups.mp held)
        have alone : [last].removeAll (names.toList ++ more) = [last] := by
          simpa [List.removeAll] using present
        rw [dif_neg absent, alone]
        rfl

theorem toList_ofList (names : List String) : (ofList names).toList = names.eraseDups :=
  toList_extend empty names

theorem extend_append_self (names : NameSet) (more : List String) :
    names.extend (more ++ more) = names.extend more := by
  have nothing : more.removeAll (names.toList ++ more) = [] := by
    apply List.filter_eq_nil_iff.mpr
    intro name inside
    simp [inside]
  rw [NameSet.mk.injEq, toList_extend, toList_extend, ← List.append_assoc, List.eraseDups_append,
    nothing, List.eraseDups_nil, List.append_nil]

theorem extend_toList_of_nodup (names : NameSet) {more : List String}
    (distinct : (names.toList ++ more).Nodup) :
    (names.extend more).toList = names.toList ++ more := by
  rw [toList_extend, eraseDups_of_nodup distinct]

/-- A list without repetition keeps its order. -/
theorem ofList_toList_of_nodup {names : List String} (distinct : names.Nodup) :
    (ofList names).toList = names :=
  extend_toList_of_nodup empty distinct

end NameSet

namespace SortedNames

private theorem mem_foldl_insert (names : List String) (start : SortedNames) (other : String) :
    other ∈ (names.foldl insert start).toList ↔ other ∈ start.toList ∨ other ∈ names := by
  have each : ∀ (start : SortedNames) name,
      other ∈ (start.insert name).toList ↔ other ∈ start.toList ∨ other = name := fun start name =>
    (mem_insert start name other).trans or_comm
  refine (foldl_iff (fun names => other ∈ names.toList) each names start).trans ?_
  simp only [exists_eq_right']

theorem mem_ofList (names : List String) (other : String) :
    other ∈ (ofList names).toList ↔ other ∈ names := by
  rw [ofList, mem_foldl_insert]
  simp [empty]

theorem mem_union (left right : SortedNames) (other : String) :
    other ∈ (union left right).toList ↔ other ∈ left.toList ∨ other ∈ right.toList :=
  mem_foldl_insert right.toList left other

theorem mem_foldl_union (sets : List SortedNames) (start : SortedNames) (other : String) :
    other ∈ (sets.foldl union start).toList ↔
      other ∈ start.toList ∨ ∃ names ∈ sets, other ∈ names.toList :=
  foldl_iff (fun names => other ∈ names.toList) (fun left right => mem_union left right other)
    sets start

theorem mem_filter (keep : String → Bool) (names : SortedNames) (other : String) :
    other ∈ (names.filter keep).toList ↔ other ∈ names.toList ∧ keep other = true :=
  List.mem_filter

theorem nodup_of_ascending {names : List String} (ascending : names.Pairwise (· < ·)) :
    names.Nodup := by
  refine List.Pairwise.imp ?_ ascending
  intro left right less same
  rw [same] at less
  exact String.lt_irrefl right less

/-- Two strictly ascending lists with the same members are the same list. -/
theorem ascending_unique {left right : List String} (leftAscending : left.Pairwise (· < ·))
    (rightAscending : right.Pairwise (· < ·)) (same : ∀ name, name ∈ left ↔ name ∈ right) :
    left = right :=
  leftAscending.eq_of_mem_iff rightAscending (fun {name} => same name)

theorem eq_of_mem_iff {left right : SortedNames}
    (same : ∀ name, name ∈ left.toList ↔ name ∈ right.toList) : left = right :=
  SortedNames.mk.injEq .. ▸ ascending_unique left.ascending right.ascending same

theorem ofList_toList_of_ascending {names : List String} (ascending : names.Pairwise (· < ·)) :
    (ofList names).toList = names :=
  ascending_unique (ofList names).ascending ascending (fun name => mem_ofList names name)

end SortedNames

end TexAtlas
