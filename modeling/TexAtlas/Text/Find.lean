/-
Finding one text in another.
-/

namespace TexAtlas.Text

/-- What follows the wanted characters, if the text begins with them. -/
def after? : List Char → List Char → Option (List Char)
  | [], text => some text
  | _ :: _, [] => none
  | first :: wanted, c :: text => if first = c then after? wanted text else none

/-- What follows the first occurrence of the wanted characters. -/
def afterFirst? (wanted : List Char) : List Char → Option (List Char)
  | [] => after? wanted []
  | c :: text =>
    match after? wanted (c :: text) with
    | some rest => some rest
    | none => afterFirst? wanted text

theorem after?_eq_some_iff {wanted text rest : List Char} :
    after? wanted text = some rest ↔ text = wanted ++ rest := by
  induction wanted generalizing text with
  | nil => simp [after?, eq_comm]
  | cons first wanted ih =>
      cases text with
      | nil => simp [after?]
      | cons c text =>
          by_cases same : first = c
          · simp [after?, same, ih]
          · simp [after?, same, Ne.symm same]

end TexAtlas.Text
