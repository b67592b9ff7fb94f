/-
Lines of a text. A line ends at a line feed; a carriage return directly before
that line feed belongs to the line end. Text after the last line feed is a line of
its own unless it is empty, and keeps a carriage return at its end.
-/

import TexAtlas.Text.Cut

namespace TexAtlas.Text

/-- The text between line feeds, the part after the last one included. -/
def rawLines (text : List Char) : List (List Char) :=
  cutAt (· == '\n') text

/-- A line without the carriage return that may end it. -/
def dropReturn (line : List Char) : List Char :=
  if line.getLast? = some '\r' then line.dropLast else line

/-- Complete lines lose their line end; an empty remainder is no line. -/
def closeLines : List (List Char) → List (List Char)
  | [] => []
  | [last] => if last.isEmpty then [] else [last]
  | line :: rest => dropReturn line :: closeLines rest

/-- The lines of a text, without their line ends. -/
def lines (text : List Char) : List (List Char) :=
  closeLines (rawLines text)

end TexAtlas.Text
