/-
The source text of a file. Bytes that are no text are shown as replacement characters,
and a file without a path has no source.
-/

import TexAtlas.File.Basic
import TexAtlas.Host.Fault

namespace TexAtlas

/-- How the bytes at a path are read. -/
abbrev ByteReader := Path → Except Host.Fault (List UInt8)

def File.readSource (read : ByteReader) (file : File) : Except Host.Fault String :=
  match file.path with
  | none => .error (.noPath file.name)
  | some path => (read path).map Text.Utf8.decodeLossy

end TexAtlas
