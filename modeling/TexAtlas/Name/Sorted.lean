/-
Sets of names in ascending order. The order of strings compares code points, so a
set has one list and equality of sets is equality of lists.
-/

namespace TexAtlas

structure SortedNames where
  toList : List String
  ascending : toList.Pairwise (· < ·)
  deriving DecidableEq, Repr

namespace SortedNames

def empty : SortedNames :=
  { toList := [], ascending := List.Pairwise.nil }

instance : Inhabited SortedNames := ⟨empty⟩

/-- The place of a name in an ascending list; a name already there stays alone. -/
def place (name : String) : List String → List String
  | [] => [name]
  | head :: tail =>
    if name < head then name :: head :: tail
    else if head < name then head :: place name tail
    else head :: tail

private theorem eq_of_not_lt {left right : String}
    (notLess : ¬left < right) (notGreater : ¬right < left) : left = right :=
  String.le_antisymm notGreater notLess

theorem mem_place (name other : String) (names : List String) :
    other ∈ place name names ↔ other = name ∨ other ∈ names := by
  induction names with
  | nil => simp [place]
  | cons head tail ih =>
      unfold place
      split
      · simp
      · split
        · rw [List.mem_cons, ih, List.mem_cons]
          constructor
          · rintro (first | second | third)
            · exact Or.inr (Or.inl first)
            · exact Or.inl second
            · exact Or.inr (Or.inr third)
          · rintro (first | second | third)
            · exact Or.inr (Or.inl first)
            · exact Or.inl second
            · exact Or.inr (Or.inr third)
        · rename_i notLess notGreater
          have same := eq_of_not_lt notLess notGreater
          subst same
          simp

theorem place_ascending (name : String) (names : List String)
    (ascending : names.Pairwise (· < ·)) : (place name names).Pairwise (· < ·) := by
  induction names with
  | nil => simp [place]
  | cons head tail ih =>
      rw [List.pairwise_cons] at ascending
      unfold place
      split
      · rename_i less
        rw [List.pairwise_cons]
        refine ⟨?_, List.pairwise_cons.mpr ascending⟩
        intro other member
        rcases List.mem_cons.mp member with same | later
        · exact same ▸ less
        · exact String.lt_trans less (ascending.1 other later)
      · split
        · rename_i greater
          rw [List.pairwise_cons]
          refine ⟨?_, ih ascending.2⟩
          intro other member
          rcases (mem_place name other tail).mp member with same | later
          · exact same ▸ greater
          · exact ascending.1 other later
        · exact List.pairwise_cons.mpr ascending

def insert (names : SortedNames) (name : String) : SortedNames :=
  { toList := place name names.toList
    ascending := place_ascending name names.toList names.ascending }

def ofList (names : List String) : SortedNames :=
  names.foldl insert empty

def union (left right : SortedNames) : SortedNames :=
  right.toList.foldl insert left

def filter (keep : String → Bool) (names : SortedNames) : SortedNames :=
  { toList := names.toList.filter keep
    ascending := names.ascending.filter keep }

def contains (names : SortedNames) (name : String) : Bool :=
  names.toList.contains name

def isEmpty (names : SortedNames) : Bool :=
  names.toList.isEmpty

theorem mem_insert (names : SortedNames) (name other : String) :
    other ∈ (names.insert name).toList ↔ other = name ∨ other ∈ names.toList :=
  mem_place name other names.toList

end SortedNames

end TexAtlas
