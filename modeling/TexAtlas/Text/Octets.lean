/-
Bytes as text: every byte is the character of the same number, so a text of characters
below 256 and its bytes are two views of one thing.
-/

import TexAtlas.Text.Utf8

namespace TexAtlas.Text

namespace Octets

def ofBytes (bytes : List UInt8) : List Char :=
  bytes.map (fun byte => Char.ofNat byte.toNat)

def toBytes (chars : List Char) : List UInt8 :=
  chars.map (fun c => UInt8.ofNat c.toNat)

/-- The bytes of a text, each as a character. -/
def ofString (text : String) : List Char :=
  ofBytes text.toUTF8.toList

end Octets

/-- The bytes that a piece was decoded from. -/
def Glyph.bytes : Glyph → List UInt8
  | .char c => (String.singleton c).toUTF8.toList
  | .broken bytes => bytes

end TexAtlas.Text
