/-
Quoted text: a text between double quotes in which every character can be read off.
Characters that cannot be shown are written by their code point.
-/

import TexAtlas.Text.Property.Unprintable

namespace TexAtlas.Text

def hexDigit (value : Nat) : Char :=
  if value < 10 then Char.ofNat (48 + value) else Char.ofNat (87 + value)

/-- The hexadecimal digits of a number, at most `count` of them and at least one. -/
def hexDigits : Nat → Nat → List Char
  | 0, _ => []
  | count + 1, value =>
    if value < 16 then [hexDigit value]
    else hexDigits count (value / 16) ++ [hexDigit (value % 16)]

/-- How one character is written between quotes. A code point has at most six
hexadecimal digits. -/
def quoteChar (c : Char) : List Char :=
  if c == '"' then ['\\', '"']
  else if c == '\\' then ['\\', '\\']
  else if c == '\n' then ['\\', 'n']
  else if c == '\r' then ['\\', 'r']
  else if c == '\t' then ['\\', 't']
  else if c == '\x00' then ['\\', '0']
  else if isUnprintable c then ['\\', 'u', '\x7b'] ++ hexDigits 6 c.toNat ++ ['\x7d']
  else [c]

/-- The text between double quotes. -/
def quoted (text : String) : String :=
  String.ofList (['"'] ++ text.toList.flatMap quoteChar ++ ['"'])

end TexAtlas.Text
