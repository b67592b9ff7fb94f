/-
What a file is for, and which engine compiles it.
-/

import TexAtlas.Path

namespace TexAtlas

/-- Role of a source file, derived from its extension. -/
inductive Role where
  | documentClass
  | style
  | other
  deriving DecidableEq, Repr

namespace Role

/-- The name is read as a path, so a separator in it hides what stands before. -/
def ofName (name : String) : Role :=
  match (Path.ofString name).extension with
  | some extension =>
    if extension = "cls".toList.map Text.Glyph.char then .documentClass
    else if extension = "sty".toList.map Text.Glyph.char then .style
    else .other
  | none => .other

/-- Classes and styles are the only files that form components. -/
def isComponent : Role → Bool
  | .documentClass | .style => true
  | .other => false

/-- The word for a role in written data. -/
def word : Role → String
  | .documentClass => "Class"
  | .style => "Style"
  | .other => "Other"

end Role

/-- The engine that compiles a probe document. -/
inductive Format where
  | latex
  | lualatex
  | xelatex
  deriving DecidableEq, Repr

namespace Format

/-- Name of the engine binary, which is also the word for the format. -/
def program : Format → String
  | .latex => "latex"
  | .lualatex => "lualatex"
  | .xelatex => "xelatex"

/-- The engine a tree below a `tex` directory belongs to. -/
def ofTree (tree : List Char) : Format :=
  if tree = "luatex".toList || tree = "lualatex".toList then .lualatex
  else if tree = "xetex".toList || tree = "xelatex".toList then .xelatex
  else .latex

/-- The segment after the last `tex` that has a successor. -/
def treeName : List (List Char) → Option (List Char)
  | segment :: tree :: rest =>
    match treeName (tree :: rest) with
    | some later => some later
    | none => if segment = "tex".toList then some tree else none
  | _ => none

/-- Files living under a LuaTeX or XeTeX tree only load on that engine. The tree is
the segment after the last `tex` directory, so the location of the distribution
plays no part. Segments that are not text are left out. -/
def ofPath (path : Path) : Format :=
  match treeName (path.segments.filterMap Path.Segment.text?) with
  | some tree => ofTree tree
  | none => .latex

end Format

end TexAtlas
