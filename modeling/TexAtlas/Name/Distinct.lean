/-
Sets of names that remember the order of arrival. Adding a name that is already
present changes nothing, so the first position of a name is the one it keeps.
-/

namespace TexAtlas

structure NameSet where
  toList : List String
  distinct : toList.Nodup
  deriving DecidableEq, Repr

namespace NameSet

def empty : NameSet :=
  { toList := [], distinct := List.nodup_nil }

instance : Inhabited NameSet := ⟨empty⟩

def contains (names : NameSet) (name : String) : Bool :=
  names.toList.contains name

def insert (names : NameSet) (name : String) : NameSet :=
  if present : name ∈ names.toList then names
  else
    { toList := names.toList ++ [name]
      distinct := by
        rw [List.nodup_append]
        refine ⟨names.distinct, by simp, ?_⟩
        intro left member right single same
        rw [List.mem_singleton] at single
        exact present (single ▸ same ▸ member) }

/-- The names of a list after those already present. -/
def extend (names : NameSet) (more : List String) : NameSet :=
  more.foldl insert names

def ofList (names : List String) : NameSet :=
  empty.extend names

theorem mem_insert (names : NameSet) (name other : String) :
    other ∈ (names.insert name).toList ↔ other ∈ names.toList ∨ other = name := by
  unfold insert
  split
  · rename_i present
    constructor
    · exact Or.inl
    · rintro (member | same)
      · exact member
      · exact same ▸ present
  · simp

theorem mem_extend (names : NameSet) (more : List String) (other : String) :
    other ∈ (names.extend more).toList ↔ other ∈ names.toList ∨ other ∈ more := by
  induction more generalizing names with
  | nil => simp [extend]
  | cons head tail ih =>
      have step : names.extend (head :: tail) = (names.insert head).extend tail := rfl
      rw [step, ih, mem_insert, List.mem_cons, or_assoc]

theorem mem_ofList (names : List String) (other : String) :
    other ∈ (ofList names).toList ↔ other ∈ names := by
  rw [ofList, mem_extend]
  simp [empty]

end NameSet

end TexAtlas
