/-
Writing JSON, on one line or indented by two blanks. Quotes, backslashes and control
characters are escaped, everything else is written as it is.
-/

import TexAtlas.Text.Quoted

namespace TexAtlas.Json

/-- What can be written. -/
inductive Document where
  | null
  | boolean (value : Bool)
  | whole (value : Nat)
  | text (value : String)
  | list (items : List Document)
  | object (members : List (String × Document))

def twoHexDigits (value : Nat) : List Char :=
  [Text.hexDigit (value / 16), Text.hexDigit (value % 16)]

def escapeChar (c : Char) : List Char :=
  if c == '"' then ['\\', '"']
  else if c == '\\' then ['\\', '\\']
  else if c == '\x08' then ['\\', 'b']
  else if c == '\x0c' then ['\\', 'f']
  else if c == '\n' then ['\\', 'n']
  else if c == '\r' then ['\\', 'r']
  else if c == '\t' then ['\\', 't']
  else if c.toNat < 0x20 then ['\\', 'u', '0', '0'] ++ twoHexDigits c.toNat
  else [c]

def writeText (value : String) : String :=
  String.ofList (['"'] ++ value.toList.flatMap escapeChar ++ ['"'])

namespace Document

mutual

/-- The document on one line. -/
def compact : Document → String
  | .null => "null"
  | .boolean value => toString value
  | .whole value => toString value
  | .text value => writeText value
  | .list items => "[" ++ String.intercalate "," (compactItems items) ++ "]"
  | .object members => "\x7b" ++ String.intercalate "," (compactMembers members) ++ "\x7d"

def compactItems : List Document → List String
  | [] => []
  | item :: rest => item.compact :: compactItems rest

def compactMembers : List (String × Document) → List String
  | [] => []
  | (key, value) :: rest => (writeText key ++ ":" ++ value.compact) :: compactMembers rest

end

/-- The start of a line at a depth. -/
def indent (depth : Nat) : String :=
  String.ofList ('\n' :: List.replicate (2 * depth) ' ')

/-- Parts between brackets, each on a line of its own. Without parts the brackets
stand together. -/
def bracketed (opening closing : String) (depth : Nat) (parts : List String) : String :=
  if parts.isEmpty then opening ++ closing
  else
    opening ++ String.intercalate "," (parts.map (fun part => indent (depth + 1) ++ part)) ++
      indent depth ++ closing

mutual

/-- The document with every item and member on a line of its own. -/
def indentedAt (depth : Nat) : Document → String
  | .null => "null"
  | .boolean value => toString value
  | .whole value => toString value
  | .text value => writeText value
  | .list items => bracketed "[" "]" depth (indentedItems (depth + 1) items)
  | .object members => bracketed "\x7b" "\x7d" depth (indentedMembers (depth + 1) members)

def indentedItems (depth : Nat) : List Document → List String
  | [] => []
  | item :: rest => item.indentedAt depth :: indentedItems depth rest

def indentedMembers (depth : Nat) : List (String × Document) → List String
  | [] => []
  | (key, value) :: rest =>
    (writeText key ++ ": " ++ value.indentedAt depth) :: indentedMembers depth rest

end

def indented (document : Document) : String :=
  document.indentedAt 0

end Document

end TexAtlas.Json
