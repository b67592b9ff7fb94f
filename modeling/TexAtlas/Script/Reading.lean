/-
Reading a line into variables.
-/

import TexAtlas.Script.Fields

namespace TexAtlas.Script

/-- The characters of the next line, how many characters it takes up, and whether it is
ended. Unless the line is taken as it stands, a backslash quotes the next character and
joins lines. -/
def nextInputLine (raw : Bool) : List Char → List Mark × Nat × Bool
  | [] => ([], 0, false)
  | '\n' :: _ => ([], 1, true)
  | '\\' :: c :: rest =>
    if raw then
      let (marks, count, ended) := nextInputLine raw (c :: rest)
      (⟨'\\', false⟩ :: marks, count + 1, ended)
    else
      let (marks, count, ended) := nextInputLine raw rest
      (if c == '\n' then marks else ⟨c, true⟩ :: marks, count + 2, ended)
  | c :: rest =>
    let (marks, count, ended) := nextInputLine raw rest
    (⟨c, false⟩ :: marks, count + 1, ended)

/-- Share the characters of a line among names. The last one gets all that is left, without
a separator that only ends the last word. -/
def shareLine (separators : List Char) : List (List Char) → List Mark →
    List (List Char × List Char)
  | [], _ => []
  | names, marks =>
    let isSpace := fun (mark : Mark) =>
      !mark.quoted && separators.contains mark.char && Chunk.isSpace mark.char
    let separates := fun (mark : Mark) => !mark.quoted && separators.contains mark.char
    let start := marks.dropWhile isSpace
    match names with
    | [] => []
    | [name] =>
      let trimmed := (start.reverse.dropWhile isSpace).reverse
      let word := trimmed.takeWhile (fun mark => !separates mark)
      let isWhole := match (trimmed.drop word.length).dropWhile isSpace with
        | [] => true
        | [mark] => separates mark
        | _ => false
      [(name, (if isWhole then word else trimmed).map Mark.char)]
    | name :: rest =>
      let word := start.takeWhile (fun mark => !separates mark)
      let after := (start.drop word.length).dropWhile isSpace
      let left := match after with
        | mark :: final => if separates mark then final else after
        | [] => []
      (name, word.map Mark.char) :: shareLine separators rest left

namespace Machine

/-- Read a line into variables. The status says whether there was a whole line. -/
def readLine (machine : Machine) (raw : Bool) (names : List (List Char)) : Nat × Machine :=
  let (marks, count, ended) := nextInputLine raw (machine.unread 0)
  let assigned := (shareLine machine.separators names marks).foldl
    (fun machine (name, value) => machine.setVariable name value)
    (machine.advance 0 count)
  (if ended then 0 else 1, assigned)

end Machine

end TexAtlas.Script
