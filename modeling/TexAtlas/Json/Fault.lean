/-
Why a text is not the JSON that was expected.
-/

import TexAtlas.Decimal.Shortest
import TexAtlas.Text.Quoted

namespace TexAtlas.Json

/-- What a value turned out to be. -/
inductive Found where
  | null
  | boolean (value : Bool)
  | whole (value : Int)
  | floating (value : Float)
  | text (value : String)
  | sequence
  | map

def Found.description : Found → String
  | null => "null"
  | boolean value => "boolean `" ++ (if value then "true" else "false") ++ "`"
  | whole value => "integer `" ++ toString value ++ "`"
  | floating value => "floating point `" ++ Decimal.text value ++ "`"
  | text value => "string " ++ Text.quoted value
  | sequence => "sequence"
  | map => "map"

inductive Fault where
  | endInValue
  | endInList
  | endInObject
  | endInText
  | noValue
  | noKeyword
  | noColon
  | noListComma
  | noObjectComma
  | trailingComma
  | trailingCharacters
  | keyNotText
  | badEscape
  | badNumber
  | numberOutOfRange
  | controlCharacter
  | loneSurrogate
  | unpairedSurrogate
  | tooDeep
  | missingField (name : String)
  | repeatedField (name : String)
  | unknownWord (word : String) (allowed : List String)
  | badLength (count : Nat) (record : String) (fields : Nat)
  | wrongType (found : Found) (expected : String)
  | wrongValue (found : Found) (expected : String)

/-- Words in backquotes, separated by commas. -/
def listed (words : List String) : String :=
  String.intercalate ", " (words.map (fun word => "`" ++ word ++ "`"))

def Fault.message : Fault → String
  | endInValue => "EOF while parsing a value"
  | endInList => "EOF while parsing a list"
  | endInObject => "EOF while parsing an object"
  | endInText => "EOF while parsing a string"
  | noValue => "expected value"
  | noKeyword => "expected ident"
  | noColon => "expected `:`"
  | noListComma => "expected `,` or `]`"
  | noObjectComma => "expected `,` or `\x7d`"
  | trailingComma => "trailing comma"
  | trailingCharacters => "trailing characters"
  | keyNotText => "key must be a string"
  | badEscape => "invalid escape"
  | badNumber => "invalid number"
  | numberOutOfRange => "number out of range"
  | controlCharacter =>
    "control character (\\u0000-\\u001F) found while parsing a string"
  | loneSurrogate => "lone leading surrogate in hex escape"
  | unpairedSurrogate => "unexpected end of hex escape"
  | tooDeep => "recursion limit exceeded"
  | missingField name => "missing field `" ++ name ++ "`"
  | repeatedField name => "duplicate field `" ++ name ++ "`"
  | unknownWord word allowed =>
    "unknown variant `" ++ word ++ "`, expected one of " ++ listed allowed
  | badLength count record fields =>
    "invalid length " ++ toString count ++ ", expected struct " ++ record ++ " with " ++
      toString fields ++ (if fields = 1 then " element" else " elements")
  | wrongType found expected => "invalid type: " ++ found.description ++ ", expected " ++ expected
  | wrongValue found expected =>
    "invalid value: " ++ found.description ++ ", expected " ++ expected

end TexAtlas.Json
