/-
File system paths. A path is a sequence of decoded pieces rather than a string,
because a path may hold bytes that are no text. Segments, file name and extension
follow the usual reading: repeated and trailing separators and `.` segments do not
count, `..` is kept and names no file.
-/

import TexAtlas.Text.Cut
import TexAtlas.Text.Utf8

namespace TexAtlas

open TexAtlas.Text (Glyph)

structure Path where
  glyphs : List Glyph
  deriving DecidableEq, Repr

namespace Path

def ofChars (chars : List Char) : Path :=
  ⟨chars.map Glyph.char⟩

def ofString (text : String) : Path :=
  ofChars text.toList

def ofBytes (bytes : List UInt8) : Path :=
  ⟨Text.Utf8.decode bytes⟩

/-- The path as shown to a reader. -/
def display (path : Path) : String :=
  String.ofList (path.glyphs.map Glyph.shown)

def slash : Glyph := .char '/'

def isAbsolute (path : Path) : Bool :=
  path.glyphs.head? == some slash

/-- An absolute right side replaces the left one; otherwise one separator stands
between the two, unless the left side is empty or brings its own. -/
def join (left right : Path) : Path :=
  if right.isAbsolute then right
  else if left.glyphs.isEmpty || left.glyphs.getLast? == some slash then
    ⟨left.glyphs ++ right.glyphs⟩
  else ⟨left.glyphs ++ slash :: right.glyphs⟩

/-- One step of a path. -/
inductive Segment where
  | root
  | here
  | parent
  | named (name : List Glyph)
  deriving DecidableEq, Repr

def dot : Glyph := .char '.'

/-- The text of a segment. -/
def Segment.glyphs : Segment → List Glyph
  | .root => [slash]
  | .here => [dot]
  | .parent => [dot, dot]
  | .named name => name

def Segment.ofGlyphs (piece : List Glyph) : Segment :=
  if piece = [dot] then .here
  else if piece = [dot, dot] then .parent
  else .named piece

/-- The steps between separators, where empty ones do not count. -/
def steps (path : Path) : List Segment :=
  (Text.runs (· == slash) path.glyphs).map Segment.ofGlyphs

/-- The segments of a path. A `.` counts only at the beginning of a relative path. -/
def segments (path : Path) : List Segment :=
  if path.isAbsolute then .root :: path.steps.filter (· != .here)
  else match path.steps with
    | [] => []
    | first :: rest => first :: rest.filter (· != .here)

/-- The name of the file the path leads to, if its last segment is a name. -/
def fileName (path : Path) : Option (List Glyph) :=
  match path.segments.getLast? with
  | some (.named name) => some name
  | _ => none

/-- Where a name splits at its last dot: the part before it and the part after it. -/
def splitAtLastDot (name : List Glyph) : Option (List Glyph × List Glyph) :=
  let afterDot := (name.reverse.takeWhile (· != dot)).reverse
  match name.length - afterDot.length with
  | 0 => none
  | kept + 1 => some (name.take kept, afterDot)

/-- What follows the last dot of the file name. A dot that begins the name begins
no extension. -/
def extension (path : Path) : Option (List Glyph) :=
  match path.fileName.bind splitAtLastDot with
  | some (_ :: _, extension) => some extension
  | _ => none

/-- The text of a segment, if it is text throughout. -/
def Segment.text? (segment : Segment) : Option (List Char) :=
  segment.glyphs.mapM Glyph.char?

end Path

end TexAtlas
