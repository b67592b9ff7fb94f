/-
The smallest parts of a JSON text: blanks, keywords, strings and numbers. Each reader
takes its part from the front of the input and returns what is left.
-/

import TexAtlas.Json.Fault

namespace TexAtlas.Json

/-- A part that was read, and the input after it. -/
abbrev Read (α : Type) := Except Fault (α × List Char)

def isSpace (c : Char) : Bool :=
  c == ' ' || c == '\n' || c == '\t' || c == '\r'

def skipSpace (input : List Char) : List Char :=
  input.dropWhile isSpace

/-- Read the remaining letters of a keyword. -/
def readKeyword : List Char → List Char → Read Unit
  | [], input => .ok ((), input)
  | _ :: _, [] => .error .endInValue
  | wanted :: more, c :: rest => if wanted = c then readKeyword more rest else .error .noKeyword

/-! ### Strings -/

def hexDigit? (c : Char) : Option Nat :=
  if '0' ≤ c && c ≤ '9' then some (c.toNat - 48)
  else if 'a' ≤ c && c ≤ 'f' then some (c.toNat - 87)
  else if 'A' ≤ c && c ≤ 'F' then some (c.toNat - 55)
  else none

/-- Four hexadecimal digits. Input of fewer than four bytes has ended too early. -/
def readUnit (input : List Char) : Read Nat :=
  match input with
  | a :: b :: c :: d :: rest =>
    match hexDigit? a, hexDigit? b, hexDigit? c, hexDigit? d with
    | some first, some second, some third, some fourth =>
      .ok (first * 4096 + second * 256 + third * 16 + fourth, rest)
    | _, _, _, _ => .error .badEscape
  | _ =>
    let size := input.foldl (fun size c => size + c.utf8Size) 0
    if size < 4 then .error .endInText else .error .badEscape

/-- The second half of a surrogate pair, backslash included. -/
def readLowSurrogate (input : List Char) : Read Nat :=
  match input with
  | [] => .error .endInText
  | '\\' :: [] => .error .endInText
  | '\\' :: 'u' :: rest =>
    match readUnit rest with
    | .error fault => .error fault
    | .ok (low, after) =>
      if 0xdc00 ≤ low && low ≤ 0xdfff then .ok (low, after) else .error .loneSurrogate
  | _ => .error .unpairedSurrogate

/-- A character written by its code units, after the `u`. -/
def readCodeUnits (input : List Char) : Read Char :=
  match readUnit input with
  | .error fault => .error fault
  | .ok (unit, rest) =>
    if 0xdc00 ≤ unit && unit ≤ 0xdfff then .error .loneSurrogate
    else if 0xd800 ≤ unit && unit ≤ 0xdbff then
      (readLowSurrogate rest).map (fun (low, after) =>
        (Char.ofNat (0x10000 + (unit - 0xd800) * 0x400 + (low - 0xdc00)), after))
    else .ok (Char.ofNat unit, rest)

/-- The characters that a backslash and one letter stand for. -/
def simpleEscape? : Char → Option Char
  | '"' => some '"'
  | '\\' => some '\\'
  | '/' => some '/'
  | 'b' => some '\x08'
  | 'f' => some '\x0c'
  | 'n' => some '\n'
  | 'r' => some '\r'
  | 't' => some '\t'
  | _ => none

/-- Read a string after its opening quote. Every turn takes at least one character. -/
def readTextFrom : Nat → List Char → List Char → Read String
  | 0, _, _ => .error .endInText
  | _ + 1, _, [] => .error .endInText
  | turns + 1, content, c :: rest =>
    if c == '"' then .ok (String.ofList content.reverse, rest)
    else if c == '\\' then
      match rest with
      | [] => .error .endInText
      | 'u' :: after =>
        match readCodeUnits after with
        | .error fault => .error fault
        | .ok (found, final) => readTextFrom turns (found :: content) final
      | escape :: after =>
        match simpleEscape? escape with
        | some found => readTextFrom turns (found :: content) after
        | none => .error .badEscape
    else if c.toNat < 0x20 then .error .controlCharacter
    else readTextFrom turns (c :: content) rest

def readText (input : List Char) : Read String :=
  readTextFrom (input.length + 1) [] input

/-- Pass over a string after its opening quote. Escapes must be well formed, but need
not make sense together. -/
def skipTextFrom : Nat → List Char → Read Unit
  | 0, _ => .error .endInText
  | _ + 1, [] => .error .endInText
  | turns + 1, c :: rest =>
    if c == '"' then .ok ((), rest)
    else if c == '\\' then
      match rest with
      | [] => .error .endInText
      | 'u' :: after =>
        match readUnit after with
        | .error fault => .error fault
        | .ok (_, final) => skipTextFrom turns final
      | escape :: after =>
        if (simpleEscape? escape).isSome then skipTextFrom turns after else .error .badEscape
    else if c.toNat < 0x20 then .error .controlCharacter
    else skipTextFrom turns rest

def skipText (input : List Char) : Read Unit :=
  skipTextFrom (input.length + 1) input

/-! ### Numbers -/

/-- A number as it is kept: whole if it is written so and fits 64 bits. -/
inductive Number where
  | natural (value : Nat)
  | negative (value : Nat)
  | floating (value : Float)

def Number.found : Number → Found
  | natural value => .whole value
  | negative value => .whole (-(value : Int))
  | floating value => .floating value

def digitValue (c : Char) : Nat :=
  c.toNat - 48

def wordLimit : Nat := Nat.pow 2 64

/-- The value of leading digits while it stays below the limit, and what follows. -/
def takeDigits (limit : Nat) : Nat → List Char → Nat × List Char
  | value, [] => (value, [])
  | value, c :: rest =>
    if c.isDigit && value * 10 + digitValue c < limit then
      takeDigits limit (value * 10 + digitValue c) rest
    else (value, c :: rest)

/-- A power of ten as a double. -/
def powerOfTen (exponent : Nat) : Float :=
  Float.ofScientific 1 false exponent

/-- Divide by the largest power of ten that a double holds as long as the exponent is
below what one division covers. -/
def shrink : Nat → Float → Int → Float × Int
  | 0, value, exponent => (value, exponent)
  | turns + 1, value, exponent =>
    if exponent < -308 && value != 0.0 then
      shrink turns (value / powerOfTen 308) (exponent + 308)
    else (value, exponent)

/-- The double of a significand and a decimal exponent, by one multiplication or by
divisions. The result may be the neighbour of the nearest double. -/
def doubleOf (negative : Bool) (significand : Nat) (exponent : Int) : Except Fault Float :=
  let whole := Float.ofNat significand
  let (value, left) := shrink (exponent.natAbs / 308 + 1) whole exponent
  let sign := fun (result : Float) => if negative then -result else result
  if value == 0.0 && 308 < left.natAbs then .ok (sign value)
  else if 308 < left then .error .numberOutOfRange
  else if 0 ≤ left then
    let product := value * powerOfTen left.toNat
    if product.isInf then .error .numberOutOfRange else .ok (sign product)
  else .ok (sign (value / powerOfTen left.natAbs))

def floatingNumber (negative : Bool) (significand : Nat) (exponent : Int)
    (rest : List Char) : Read Number :=
  (doubleOf negative significand exponent).map (fun value => (.floating value, rest))

def exponentLimit : Nat := Nat.pow 2 31

/-- Read an exponent after its letter. -/
def readExponent (negative : Bool) (significand : Nat) (start : Int) (input : List Char) :
    Read Number :=
  let (shrinks, digits) := match input with
    | '+' :: rest => (false, rest)
    | '-' :: rest => (true, rest)
    | _ => (false, input)
  match digits with
  | [] => .error .endInValue
  | c :: _ =>
    if !c.isDigit then .error .badNumber
    else
      let (value, rest) := takeDigits exponentLimit 0 digits
      match rest with
      | more :: _ =>
        if more.isDigit then
          if significand != 0 && !shrinks then .error .numberOutOfRange
          else .ok (.floating (if negative then -0.0 else 0.0), rest.dropWhile Char.isDigit)
        else floatingNumber negative significand
          (if shrinks then start - value else start + value) rest
      | [] => floatingNumber negative significand
          (if shrinks then start - value else start + value) rest

/-- Read what may follow the digits of a number that is floating already. -/
def finishFloating (negative : Bool) (significand : Nat) (exponent : Int)
    (input : List Char) : Read Number :=
  match input with
  | 'e' :: rest | 'E' :: rest => readExponent negative significand exponent rest
  | _ => floatingNumber negative significand exponent input

/-- Read a fraction after its point. Digits that no longer fit are passed over. -/
def readFraction (negative : Bool) (significand : Nat) (start : Int) (input : List Char) :
    Read Number :=
  let (value, rest) := takeDigits wordLimit significand input
  let taken := input.length - rest.length
  match rest with
  | c :: _ =>
    if c.isDigit then
      finishFloating negative value (start - taken) (rest.dropWhile Char.isDigit)
    else if taken = 0 then .error .badNumber
    else finishFloating negative value (start - taken) rest
  | [] => if taken = 0 then .error .endInValue else finishFloating negative value (start - taken) []

/-- A whole number, unless it is negative and does not fit or is zero. -/
def wholeNumber (negative : Bool) (value : Nat) : Number :=
  if !negative then .natural value
  else if 0 < value && value ≤ Nat.pow 2 63 then .negative value
  else .floating (-(Float.ofNat value))

/-- Read a number after its sign. -/
def readNumber (negative : Bool) (input : List Char) : Read Number :=
  match input with
  | [] => .error .endInValue
  | first :: after =>
    if !first.isDigit then .error .badNumber
    else if first == '0' && (after.head?.map Char.isDigit).getD false then .error .badNumber
    else
      let (value, rest) :=
        if first == '0' then (0, after) else takeDigits wordLimit 0 input
      let overflow := rest.takeWhile Char.isDigit
      let rest := rest.drop overflow.length
      match rest with
      | '.' :: fraction => readFraction negative value overflow.length fraction
      | 'e' :: more | 'E' :: more => readExponent negative value overflow.length more
      | _ =>
        if overflow.isEmpty then .ok (wholeNumber negative value, rest)
        else floatingNumber negative value overflow.length rest

/-- Pass over an exponent after its letter. -/
def skipExponent (input : List Char) : Read Unit :=
  let digits := match input with
    | '+' :: rest | '-' :: rest => rest
    | _ => input
  match digits with
  | c :: rest => if c.isDigit then .ok ((), rest.dropWhile Char.isDigit) else .error .badNumber
  | [] => .error .badNumber

/-- Pass over a number after its sign. -/
def skipNumber (input : List Char) : Read Unit :=
  match input with
  | [] => .error .badNumber
  | first :: after =>
    if !first.isDigit then .error .badNumber
    else if first == '0' && (after.head?.map Char.isDigit).getD false then .error .badNumber
    else
      match (if first == '0' then after else after.dropWhile Char.isDigit) with
      | '.' :: fraction =>
        let rest := fraction.dropWhile Char.isDigit
        if rest.length = fraction.length then .error .badNumber
        else match rest with
          | 'e' :: more | 'E' :: more => skipExponent more
          | _ => .ok ((), rest)
      | 'e' :: more | 'E' :: more => skipExponent more
      | rest => .ok ((), rest)

end TexAtlas.Json
