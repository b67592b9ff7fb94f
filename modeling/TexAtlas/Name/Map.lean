/-
Maps from names that remember the order of arrival. A name that is set again keeps
its place and takes the new value.
-/

namespace TexAtlas

structure NameMap (α : Type) where
  entries : List (String × α)
  distinct : (entries.map Prod.fst).Nodup

namespace NameMap

variable {α : Type}

def empty : NameMap α :=
  { entries := [], distinct := List.nodup_nil }

instance : Inhabited (NameMap α) := ⟨empty⟩

/-- Entries with the value of one name set: in place, or at the end if it is new. -/
def put (name : String) (value : α) : List (String × α) → List (String × α)
  | [] => [(name, value)]
  | entry :: rest =>
    if entry.1 = name then (name, value) :: rest else entry :: put name value rest

theorem mem_keys_put (name other : String) (value : α) (entries : List (String × α)) :
    other ∈ (put name value entries).map Prod.fst ↔
      other = name ∨ other ∈ entries.map Prod.fst := by
  induction entries with
  | nil => simp [put]
  | cons entry rest ih =>
      unfold put
      split
      · rename_i same
        simp [same]
      · rw [List.map_cons, List.mem_cons, ih, List.map_cons, List.mem_cons]
        constructor
        · rintro (first | second | third)
          · exact Or.inr (Or.inl first)
          · exact Or.inl second
          · exact Or.inr (Or.inr third)
        · rintro (first | second | third)
          · exact Or.inr (Or.inl first)
          · exact Or.inl second
          · exact Or.inr (Or.inr third)

theorem put_distinct (name : String) (value : α) (entries : List (String × α))
    (distinct : (entries.map Prod.fst).Nodup) :
    ((put name value entries).map Prod.fst).Nodup := by
  induction entries with
  | nil => simp [put]
  | cons entry rest ih =>
      rw [List.map_cons, List.nodup_cons] at distinct
      unfold put
      split
      · rename_i same
        rw [List.map_cons, List.nodup_cons]
        exact ⟨same ▸ distinct.1, distinct.2⟩
      · rename_i different
        rw [List.map_cons, List.nodup_cons, mem_keys_put]
        refine ⟨?_, ih distinct.2⟩
        rintro (same | later)
        · exact different same
        · exact distinct.1 later

def insert (map : NameMap α) (name : String) (value : α) : NameMap α :=
  { entries := put name value map.entries
    distinct := put_distinct name value map.entries map.distinct }

def ofList (entries : List (String × α)) : NameMap α :=
  entries.foldl (fun map entry => map.insert entry.1 entry.2) empty

/-- The value of the first entry of a name. -/
def find : List (String × α) → String → Option α
  | [], _ => none
  | entry :: rest, name => if entry.1 = name then some entry.2 else find rest name

def get? (map : NameMap α) (name : String) : Option α :=
  find map.entries name

def contains (map : NameMap α) (name : String) : Bool :=
  (map.get? name).isSome

def keys (map : NameMap α) : List String :=
  map.entries.map Prod.fst

def values (map : NameMap α) : List α :=
  map.entries.map Prod.snd

def size (map : NameMap α) : Nat :=
  map.entries.length

theorem find_put (name other : String) (value : α) (entries : List (String × α)) :
    find (put name value entries) other =
      if name = other then some value else find entries other := by
  induction entries with
  | nil => simp [put, find]
  | cons entry rest ih =>
      unfold put
      split
      · rename_i same
        by_cases asked : name = other
        · simp [find, asked]
        · have skip : ¬entry.1 = other := fun equal => asked (same ▸ equal)
          simp [find, asked, skip]
      · rename_i different
        by_cases asked : entry.1 = other
        · have apart : ¬name = other := fun equal => different (asked.trans equal.symm)
          simp [find, asked, apart]
        · simp [find, asked, ih]

theorem get?_insert (map : NameMap α) (name other : String) (value : α) :
    (map.insert name value).get? other = if name = other then some value else map.get? other :=
  find_put name other value map.entries

theorem get?_empty (name : String) : (empty : NameMap α).get? name = none := rfl

end NameMap

end TexAtlas
