/-
Reading bytes as UTF-8. Bytes that do not form a character are kept as broken
pieces, each a longest beginning of some well-formed sequence or a single byte, so
that a lossy reading shows one replacement character per broken piece and a strict
reading knows whether there was any.
-/

namespace TexAtlas.Text

/-- One piece of decoded bytes. -/
inductive Glyph where
  | char (c : Char)
  | broken (bytes : List UInt8)
  deriving DecidableEq, Repr

/-- What a lossy reading shows for a piece. -/
def Glyph.shown : Glyph → Char
  | .char c => c
  | .broken _ => '\ufffd'

/-- The character of a piece, if it is one. -/
def Glyph.char? : Glyph → Option Char
  | .char c => some c
  | .broken _ => none

namespace Utf8

/-- A sequence whose first bytes were read: the bytes so far in order, the value of
their payload bits, how many bytes are still wanted, and the range allowed for the
next one. Only the second byte has a range that depends on the first. -/
structure Partial where
  bytes : List UInt8
  value : Nat
  missing : Nat
  low : UInt8
  high : UInt8

/-- What a byte that begins a sequence begins. -/
inductive Lead where
  | complete (c : Char)
  | incomplete (part : Partial)
  | refused

def lead (byte : UInt8) : Lead :=
  let code := byte.toNat
  if code < 0x80 then .complete (Char.ofNat code)
  else if 0xc2 ≤ code && code ≤ 0xdf then .incomplete ⟨[byte], code % 32, 1, 0x80, 0xbf⟩
  else if code == 0xe0 then .incomplete ⟨[byte], 0, 2, 0xa0, 0xbf⟩
  else if code == 0xed then .incomplete ⟨[byte], 13, 2, 0x80, 0x9f⟩
  else if 0xe1 ≤ code && code ≤ 0xef then .incomplete ⟨[byte], code % 16, 2, 0x80, 0xbf⟩
  else if code == 0xf0 then .incomplete ⟨[byte], 0, 3, 0x90, 0xbf⟩
  else if code == 0xf4 then .incomplete ⟨[byte], 4, 3, 0x80, 0x8f⟩
  else if 0xf1 ≤ code && code ≤ 0xf3 then .incomplete ⟨[byte], code % 8, 3, 0x80, 0xbf⟩
  else .refused

/-- Read a byte at the beginning of a sequence. The finished pieces come first, then
the sequence left open. -/
def start (byte : UInt8) : List Glyph × Option Partial :=
  match lead byte with
  | .complete c => ([.char c], none)
  | .incomplete part => ([], some part)
  | .refused => ([.broken [byte]], none)

/-- Read a byte inside a sequence. A byte that cannot continue it breaks the sequence
and is read again as a beginning. -/
def proceed (part : Partial) (byte : UInt8) : List Glyph × Option Partial :=
  if part.low ≤ byte && byte ≤ part.high then
    let value := part.value * 64 + byte.toNat % 64
    if part.missing ≤ 1 then ([.char (Char.ofNat value)], none)
    else ([], some ⟨part.bytes ++ [byte], value, part.missing - 1, 0x80, 0xbf⟩)
  else
    let (pieces, next) := start byte
    (.broken part.bytes :: pieces, next)

/-- Decode bytes after an open sequence, if there is one. -/
def decodeFrom : Option Partial → List UInt8 → List Glyph
  | none, [] => []
  | some part, [] => [.broken part.bytes]
  | none, byte :: rest =>
    let (pieces, next) := start byte
    pieces ++ decodeFrom next rest
  | some part, byte :: rest =>
    let (pieces, next) := proceed part byte
    pieces ++ decodeFrom next rest

def decode (bytes : List UInt8) : List Glyph :=
  decodeFrom none bytes

/-- The text of the bytes with a replacement character for every broken piece. -/
def decodeLossy (bytes : List UInt8) : String :=
  String.ofList ((decode bytes).map Glyph.shown)

/-- The text of the bytes, if they are well formed throughout. -/
def decode? (bytes : List UInt8) : Option String :=
  ((decode bytes).mapM Glyph.char?).map String.ofList

end Utf8

end TexAtlas.Text
