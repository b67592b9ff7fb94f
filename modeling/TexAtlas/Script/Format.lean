/-
Formatted output: backslash sequences, and formats whose conversions are filled with
arguments.
-/

namespace TexAtlas.Script.Format

def isOctal (c : Char) : Bool :=
  '0' ≤ c && c ≤ '7'

/-- The byte that octal digits stand for. -/
def octalByte (digits : List Char) : Char :=
  Char.ofNat (digits.foldl (fun value digit => value * 8 + (digit.toNat - 48)) 0 % 256)

/-- At most three octal digits. -/
def octalDigits (input : List Char) : List Char :=
  (input.take 3).takeWhile isOctal

/-- The character that a letter after a backslash stands for. -/
def escapeLetter (c : Char) : Option Char :=
  match c with
  | 'a' => some '\x07'
  | 'b' => some '\x08'
  | 'e' => some '\x1b'
  | 'f' => some '\x0c'
  | 'n' => some '\n'
  | 'r' => some '\r'
  | 't' => some '\t'
  | 'v' => some '\x0b'
  | '\\' => some '\\'
  | _ => none

/-- Text with its backslash sequences replaced, and whether it goes on after it. An
octal number may have a zero in front of its three digits; `\c` ends all output. -/
def unescaped : Nat → List Char → List Char × Bool
  | 0, _ => ([], true)
  | _, [] => ([], true)
  | turns + 1, '\\' :: c :: rest =>
    let add := fun (found : List Char) (after : List Char) =>
      let (others, goesOn) := unescaped turns after
      (found ++ others, goesOn)
    if c == 'c' then ([], false)
    else if isOctal c then
      let digits := octalDigits (if c == '0' then rest else c :: rest)
      add [octalByte digits] (rest.drop (if c == '0' then digits.length else digits.length - 1))
    else
      match escapeLetter c with
      | some found => add [found] rest
      | none => add ['\\', c] rest
  | turns + 1, c :: rest =>
    let (others, goesOn) := unescaped turns rest
    (c :: others, goesOn)

def unescape (text : List Char) : List Char × Bool :=
  unescaped (text.length + 1) text

/-- What is printed for the arguments of an echo: blanks between them, and a line end
unless the first argument asks for none. -/
def echo (arguments : List (List Char)) : List Char :=
  let (bare, words) := match arguments with
    | ['-', 'n'] :: rest => (true, rest)
    | other => (false, other)
  let (text, goesOn) := unescape ([' '].intercalate words)
  if bare || !goesOn then text else text ++ ['\n']

/-- How one conversion is laid out. -/
structure Layout where
  left : Bool
  zeros : Bool
  sign : Bool
  blank : Bool
  alternate : Bool
  width : Nat
  precision : Option Nat

/-- Fill up to the width of a layout. -/
def Layout.fill (layout : Layout) (text : List Char) : List Char :=
  let missing := layout.width - text.length
  if layout.left then text ++ List.replicate missing ' '
  else List.replicate missing ' ' ++ text

def digitsIn (base : Nat) (upper : Bool) (value : Nat) : List Char :=
  (Nat.toDigits base value).map (fun c => if upper then c.toUpper else c)

/-- A number with its sign, filled up by zeros where the layout asks for them. -/
def Layout.number (layout : Layout) (negative : Bool) (digits : List Char) : List Char :=
  let sign := if negative then ['-'] else if layout.sign then ['+']
    else if layout.blank then [' '] else []
  let least := layout.precision.getD
    (if layout.zeros && !layout.left then layout.width - sign.length else 0)
  layout.fill (sign ++ List.replicate (least - digits.length) '0' ++ digits)

/-- The number that a text begins with: decimal, octal, hexadecimal, or the code of a
character after a quote. The second part says whether all of the text was used. -/
def readNumber (text : List Char) : Int × Bool :=
  let signed := text.dropWhile (fun c => c == ' ' || c == '\t')
  match signed with
  | '\'' :: c :: _ => (c.toNat, true)
  | '"' :: c :: _ => (c.toNat, true)
  | _ =>
    let (negative, body) := match signed with
      | '-' :: rest => (true, rest)
      | '+' :: rest => (false, rest)
      | other => (false, other)
    let value := fun (base : Nat) (isDigit : Char → Bool) (input : List Char) =>
      let digits := input.takeWhile isDigit
      let found := digits.foldl (fun value digit => value * base +
        (if digit.isDigit then digit.toNat - 48 else digit.toLower.toNat - 87)) 0
      ((if negative then -(found : Int) else (found : Int)),
        digits.length == input.length && !digits.isEmpty)
    let isHex := fun (c : Char) => c.isDigit || ('a' ≤ c.toLower && c.toLower ≤ 'f')
    match body with
    | '0' :: 'x' :: rest => value 16 isHex rest
    | '0' :: d :: rest => value 8 isOctal ('0' :: d :: rest)
    | _ => value 10 Char.isDigit body

/-- The number of an unsigned conversion, negative ones counted from the top of 64 bits. -/
def unsignedValue (value : Int) : Nat :=
  (value % (18446744073709551616 : Int)).toNat

/-- What a printing in progress has come to. -/
structure Printing where
  output : List Char
  arguments : List (List Char)
  /-- What went wrong: nothing, a number that could not be read, or the format. -/
  status : Nat
  goesOn : Bool

/-- The next argument, empty where none is left. -/
def Printing.next (printing : Printing) : List Char × Printing :=
  match printing.arguments with
  | [] => ([], printing)
  | argument :: rest => (argument, { printing with arguments := rest })

def Printing.add (printing : Printing) (text : List Char) : Printing :=
  { printing with output := printing.output ++ text }

/-- Print one conversion. -/
def convert (layout : Layout) (letter : Char) (printing : Printing) : Printing :=
  let (argument, left) := printing.next
  let (value, sound) := readNumber argument
  let numbered :=
    { left with status := if sound || argument.isEmpty then left.status else max left.status 1 }
  let cut := fun (text : List Char) => match layout.precision with
    | some most => text.take most
    | none => text
  match letter with
  | 's' => left.add (layout.fill (cut argument))
  | 'b' =>
    let (text, goesOn) := unescape argument
    { left.add (layout.fill (cut text)) with goesOn := goesOn }
  | 'c' => left.add (layout.fill (argument.take 1))
  | 'd' | 'i' => numbered.add (layout.number (value < 0) (digitsIn 10 false value.natAbs))
  | 'u' => numbered.add (layout.number false (digitsIn 10 false (unsignedValue value)))
  | 'o' => numbered.add (layout.number false
      ((if layout.alternate then ['0'] else []) ++ digitsIn 8 false (unsignedValue value)))
  | 'x' => numbered.add (layout.number false
      ((if layout.alternate then ['0', 'x'] else []) ++ digitsIn 16 false (unsignedValue value)))
  | 'X' => numbered.add (layout.number false
      ((if layout.alternate then ['0', 'X'] else []) ++ digitsIn 16 true (unsignedValue value)))
  | _ => { printing with status := 2, goesOn := false }

/-- A number in a format, or a star that takes an argument. -/
def readSize (input : List Char) (printing : Printing) : Option Nat × List Char × Printing :=
  match input with
  | '*' :: rest =>
    let (argument, left) := printing.next
    (some (readNumber argument).1.toNat, rest, left)
  | _ =>
    let digits := input.takeWhile Char.isDigit
    ((String.ofList digits).toNat?, input.drop digits.length, printing)

/-- Print a format once. -/
def printOnce : Nat → List Char → Printing → Printing
  | 0, _, printing => printing
  | _, [], printing => printing
  | turns + 1, c :: rest, printing =>
    if !printing.goesOn then printing
    else if c == '\\' then
      match rest with
      | [] => printing.add ['\\']
      | next :: after =>
        let digits := octalDigits rest
        if !digits.isEmpty then
          printOnce turns (rest.drop digits.length) (printing.add [octalByte digits])
        else
          match escapeLetter next with
          | some found => printOnce turns after (printing.add [found])
          | none => printOnce turns after (printing.add ['\\', next])
    else if c == '%' then
      match rest with
      | '%' :: after => printOnce turns after (printing.add ['%'])
      | _ =>
        let flags := rest.takeWhile (fun flag => flag == '-' || flag == '0' || flag == '+' ||
          flag == ' ' || flag == '#')
        let (width, afterWidth, sized) := readSize (rest.drop flags.length) printing
        let (precision, afterSize, ready) := match afterWidth with
          | '.' :: inner =>
            let (found, after, left) := readSize inner sized
            (some (found.getD 0), after, left)
          | other => (none, other, sized)
        let layout : Layout :=
          { left := flags.contains '-'
            zeros := flags.contains '0'
            sign := flags.contains '+'
            blank := flags.contains ' '
            alternate := flags.contains '#'
            width := width.getD 0
            precision := precision }
        match afterSize with
        | [] => { ready with status := 2, goesOn := false }
        | letter :: after => printOnce turns after (convert layout letter ready)
    else printOnce turns rest (printing.add [c])

/-- Print a format again and again until all arguments are used. -/
def printAll (format : List Char) : Nat → Printing → Printing
  | 0, printing => printing
  | turns + 1, printing =>
    let next := printOnce (format.length + 1) format printing
    if next.goesOn && !next.arguments.isEmpty && next.arguments.length < printing.arguments.length
    then printAll format turns next
    else next

/-- What a format prints for arguments, and the status to which that comes. -/
def print (format : List Char) (arguments : List (List Char)) : List Char × Nat :=
  let done := printAll format (arguments.length + 1) ⟨[], arguments, 0, true⟩
  (done.output, done.status)

end TexAtlas.Script.Format
