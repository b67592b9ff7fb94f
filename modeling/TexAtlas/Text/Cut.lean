/-
Cutting a list at separators. Text lines, white-space separated words and path
segments are all pieces of one such cut, so their laws are stated once here.
This module knows nothing about characters.
-/

namespace TexAtlas.Text

/-- Put an item in front of the first piece. -/
def extendFirst {α : Type} (item : α) : List (List α) → List (List α)
  | [] => [[item]]
  | first :: others => (item :: first) :: others

/-- The pieces between separators, empty pieces included. There is always one
piece more than there are separators. -/
def cutAt {α : Type} (separates : α → Bool) : List α → List (List α)
  | [] => [[]]
  | item :: rest =>
    if separates item then [] :: cutAt separates rest
    else extendFirst item (cutAt separates rest)

/-- The nonempty pieces: the maximal runs free of separators. -/
def runs {α : Type} (separates : α → Bool) (items : List α) : List (List α) :=
  (cutAt separates items).filter (fun piece => !piece.isEmpty)

theorem extendFirst_ne_nil {α : Type} (item : α) (pieces : List (List α)) :
    extendFirst item pieces ≠ [] := by
  cases pieces <;> simp [extendFirst]

theorem cutAt_ne_nil {α : Type} (separates : α → Bool) (items : List α) :
    cutAt separates items ≠ [] := by
  cases items with
  | nil => simp [cutAt]
  | cons item rest =>
      unfold cutAt
      split
      · simp
      · exact extendFirst_ne_nil item _

end TexAtlas.Text
