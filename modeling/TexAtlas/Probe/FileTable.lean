/-
The table of loaded files in a transcript. It begins after its heading, ends at a line
of asterisks, and names a file wherever a word of it has a known extension.
-/

import TexAtlas.Name.Distinct
import TexAtlas.Text.Blank
import TexAtlas.Text.Find
import TexAtlas.Text.Lines

namespace TexAtlas.Probe

/-- The heading before the table. -/
def tableHeading : String := "*File List*"

/-- The extensions that make a word a file name, dot included. -/
def tableExtensions : List (List Char) :=
  [".sty".toList, ".tex".toList, ".def".toList, ".cls".toList]

def beginsWithExtension (text : List Char) : Bool :=
  tableExtensions.any (fun extension => (Text.after? extension text).isSome)

/-- Where the last extension in a word ends, counted from the beginning of the word.
An extension that begins the word does not count. -/
def lastExtensionEnd : Nat → List Char → Option Nat
  | _, [] => none
  | position, c :: rest =>
    match lastExtensionEnd (position + 1) rest with
    | some found => some found
    | none => if 0 < position && beginsWithExtension (c :: rest) then some (position + 4) else none

/-- The file name in a word: its longest beginning with a known extension. -/
def nameInWord (word : List Char) : Option String :=
  (lastExtensionEnd 0 word).map (fun length => String.ofList (word.take length))

/-- A line that closes the table: asterisks, blanks around them allowed. -/
def isClosingRule (line : List Char) : Bool :=
  let trimmed := Text.trim line
  !trimmed.isEmpty && trimmed.all (· == '*')

/-- The names in the lines of a table, in order and with repetitions. -/
def namesInLines (lines : List (List Char)) : List String :=
  (lines.takeWhile (fun line => !isClosingRule line)).flatMap
    (fun line => (Text.words line).filterMap nameInWord)

/-- The files that a transcript lists, each once, or nothing where it has no table. -/
def fileTable (transcript : String) : Option (List String) :=
  (Text.afterFirst? tableHeading.toList transcript.toList).map
    (fun table => (NameSet.ofList (namesInLines (Text.lines table))).toList)

end TexAtlas.Probe
