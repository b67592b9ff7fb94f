/-
Reading scripts. A reader takes what it can from the front of a text and answers with
the rest, or with nothing where the text is no script. The number that all readers
count down bounds how deep they call each other; sixteen calls per character are more
than any text needs.
-/

import TexAtlas.Script.Syntax

namespace TexAtlas.Script

def isBlank (c : Char) : Bool :=
  c == ' ' || c == '\t'

/-- Characters that end a word outside of quotes. -/
def endsWord (c : Char) : Bool :=
  isBlank c || c == '\n' || c == ';' || c == '&' || c == '|' || c == '<' || c == '>' ||
    c == '(' || c == ')'

def beginsName (c : Char) : Bool :=
  c.isAlpha || c == '_'

def continuesName (c : Char) : Bool :=
  c.isAlphanum || c == '_'

/-- Names that stand for something other than a variable. -/
def isSpecialName (c : Char) : Bool :=
  c == '@' || c == '*' || c == '#' || c == '?' || c == '$' || c == '!' || c == '-' || c == '0'

/-- The input after blanks and continued lines, and after a comment. -/
def skipBlanks : List Char → List Char
  | '\\' :: '\n' :: rest => skipBlanks rest
  | '#' :: rest => rest.dropWhile (· != '\n')
  | c :: rest => if isBlank c then skipBlanks rest else c :: rest
  | [] => []

/-- The input after blanks, comments and empty lines. -/
def skipLines : Nat → List Char → List Char
  | 0, input => input
  | turns + 1, input =>
    match skipBlanks input with
    | '\n' :: rest => skipLines turns rest
    | other => other

def toNextWord (input : List Char) : List Char :=
  skipLines (input.length + 1) input

/-- The word at the front as it stands there, if it has no quotes or expansions. -/
def plainWord (input : List Char) : List Char × List Char :=
  (input.takeWhile (fun c => !endsWord c), input.dropWhile (fun c => !endsWord c))

/-- The input after a given word, if it comes next. -/
def skipWord (word : String) (input : List Char) : Option (List Char) :=
  let (found, rest) := plainWord input
  if found == word.toList then some rest else none

/-- Words that end a list of commands. -/
def closers : List (List Char) :=
  ["then", "else", "elif", "fi", "do", "done", "esac", "\x7d"].map String.toList

/-- Whether a list of commands ends here. -/
def listEnds (input : List Char) : Bool :=
  match input with
  | [] => true
  | ')' :: _ => true
  | ';' :: ';' :: _ => true
  | _ => closers.contains (plainWord input).1

/-- In what surroundings pieces are read. -/
inductive Surrounding where
  | word
  | quotes
  /-- The operand of a parameter use, itself inside of quotes or not. -/
  | operand (quoted : Bool)
  /-- Text that is given as input. -/
  | document
  deriving DecidableEq, Repr

namespace Surrounding

def isQuoted : Surrounding → Bool
  | word => false
  | quotes => true
  | operand quoted => quoted
  | document => true

def endsAt (surrounding : Surrounding) (c : Char) : Bool :=
  match surrounding with
  | word => endsWord c
  | quotes => c == '"'
  | operand _ => c == '\x7d'
  | document => false

/-- Whether the text may stop without an end mark. -/
def mayStop : Surrounding → Bool
  | word | document => true
  | quotes | operand _ => false

/-- Whether a backslash takes away the meaning of a character. -/
def escapes (surrounding : Surrounding) (c : Char) : Bool :=
  let always := c == '$' || c == '`' || c == '\\'
  match surrounding with
  | word | operand false => true
  | quotes => always || c == '"'
  | operand true => always || c == '"' || c == '\x7d'
  | document => always

end Surrounding

/-- The text up to a closing double parenthesis, inner parentheses balanced. -/
def untilSumEnds : Nat → List Char → Option (List Char × List Char)
  | _, [] => none
  | 0, ')' :: ')' :: rest => some ([], rest)
  | depth, c :: rest =>
    let inner := if c == '(' then depth + 1 else if c == ')' then depth - 1 else depth
    (untilSumEnds inner rest).map (fun (found, after) => (c :: found, after))

/-- The text up to a backquote, without the backslashes that protect characters. -/
def untilBackquote : List Char → Option (List Char × List Char)
  | [] => none
  | '`' :: rest => some ([], rest)
  | '\\' :: c :: rest =>
    let kept := if c == '$' || c == '`' || c == '\\' then [c] else ['\\', c]
    (untilBackquote rest).map (fun (found, after) => (kept ++ found, after))
  | c :: rest => (untilBackquote rest).map (fun (found, after) => (c :: found, after))

/-- The name of a parameter between braces. -/
def bracedName (input : List Char) : Option (List Char × List Char) :=
  match input with
  | [] => none
  | c :: rest =>
    if beginsName c then some (input.takeWhile continuesName, input.dropWhile continuesName)
    else if c.isDigit then some (input.takeWhile Char.isDigit, input.dropWhile Char.isDigit)
    else if isSpecialName c then some ([c], rest)
    else none

/-- The lines up to a delimiter, and the text after it. Leading tabs are dropped from
all lines where `tabs` is set. -/
def untilDelimiter (delimiter : List Char) (tabs : Bool) : Nat → List Char →
    List Char × List Char
  | 0, rest => ([], rest)
  | _, [] => ([], [])
  | turns + 1, input =>
    let line := input.takeWhile (· != '\n')
    let after := (input.dropWhile (· != '\n')).drop 1
    let kept := if tabs then line.dropWhile (· == '\t') else line
    if kept == delimiter then ([], after)
    else
      let (found, rest) := untilDelimiter delimiter tabs turns after
      (kept ++ ['\n'] ++ found, rest)

/-- Cut the lines of a document out of the text after the current line. -/
def takeDocument (delimiter : List Char) (tabs : Bool) (input : List Char) :
    List Char × List Char :=
  let line := input.takeWhile (· != '\n')
  let after := (input.dropWhile (· != '\n')).drop 1
  let (found, rest) := untilDelimiter delimiter tabs (after.length + 1) after
  (found, line ++ ['\n'] ++ rest)

/-- The characters of a word that is not expanded, and whether any was quoted. -/
def literalWord : List Char → List Char × Bool × List Char
  | [] => ([], false, [])
  | '\\' :: c :: rest =>
    let (found, _, after) := literalWord rest
    (c :: found, true, after)
  | c :: rest =>
    if endsWord c then ([], false, c :: rest)
    else
      let (found, quoted, after) := literalWord rest
      if c == '\'' || c == '"' then (found, true, after) else (c :: found, quoted, after)

/-- The name before an assignment and the input after its equals sign. -/
def assignmentName (input : List Char) : Option (List Char × List Char) :=
  match input with
  | c :: _ =>
    if beginsName c then
      match input.dropWhile continuesName with
      | '=' :: rest => some (input.takeWhile continuesName, rest)
      | _ => none
    else none
  | [] => none

/-- The number of a descriptor directly before a redirection, and the input there. -/
def redirectionStart (input : List Char) : Option (Option Nat × List Char) :=
  let digits := input.takeWhile Char.isDigit
  match input.dropWhile Char.isDigit with
  | '<' :: rest => some ((String.ofList digits).toNat?, '<' :: rest)
  | '>' :: rest => some ((String.ofList digits).toNat?, '>' :: rest)
  | _ => none

/-- The name in front of a pair of parentheses, which begins a definition. -/
def definitionName (input : List Char) : Option (List Char × List Char) :=
  let (name, rest) := plainWord input
  match skipBlanks rest with
  | '(' :: after =>
    match skipBlanks after with
    | ')' :: body => if name.all continuesName && !name.isEmpty then some (name, body) else none
    | _ => none
  | _ => none

mutual

/-- Pieces up to the end of their surrounding, which is left in place. -/
def readPieces : Nat → Surrounding → List Char → Option (List Piece × List Char)
  | 0, _, _ => none
  | calls + 1, surrounding, input =>
    let quoted := surrounding.isQuoted
    match input with
    | [] => if surrounding.mayStop then some ([], []) else none
    | c :: rest =>
      let add := fun (piece : Piece) (after : List Char) =>
        (readPieces calls surrounding after).map
          (fun (pieces, final) => (piece :: pieces, final))
      if surrounding.endsAt c then some ([], input)
      else if c == '\\' then
        match rest with
        | [] => add (.text ['\\'] quoted) []
        | '\n' :: after => readPieces calls surrounding after
        | next :: after =>
          if surrounding.escapes next then add (.text [next] true) after
          else add (.text ['\\'] quoted) rest
      else if c == '\'' && !quoted then
        match rest.dropWhile (· != '\'') with
        | [] => none
        | _ :: after => add (.text (rest.takeWhile (· != '\'')) true) after
      else if c == '"' && surrounding != .document then
        match readPieces calls .quotes rest with
        | some (inner, _ :: after) =>
          (readPieces calls surrounding after).map
            (fun (pieces, final) => (.text [] true :: (inner ++ pieces), final))
        | _ => none
      else if c == '`' then
        match untilBackquote rest with
        | none => none
        | some (script, after) =>
          match readList calls script with
          | some (command, []) => add (.output command quoted) after
          | _ => none
      else if c == '$' then
        match readDollar calls quoted rest with
        | none => none
        | some (piece, after) => add piece after
      else add (.text [c] quoted) rest

/-- What follows a dollar sign. -/
def readDollar : Nat → Bool → List Char → Option (Piece × List Char)
  | 0, _, _ => none
  | calls + 1, quoted, input =>
    match input with
    | '\x7b' :: rest => readBraced calls quoted rest
    | '(' :: '(' :: rest =>
      match untilSumEnds 0 rest with
      | none => none
      | some (expression, after) =>
        match readPieces calls .document expression with
        | none => none
        | some (pieces, _) => some (.sum pieces quoted, after)
    | '(' :: rest =>
      match readList calls rest with
      | some (command, ')' :: after) => some (.output command quoted, after)
      | _ => none
    | c :: rest =>
      if beginsName c then
        some (.parameter (input.takeWhile continuesName) .value quoted,
          input.dropWhile continuesName)
      else if c.isDigit || isSpecialName c then some (.parameter [c] .value quoted, rest)
      else some (.text ['$'] quoted, input)
    | [] => some (.text ['$'] quoted, [])

/-- A parameter between braces. -/
def readBraced : Nat → Bool → List Char → Option (Piece × List Char)
  | 0, _, _ => none
  | calls + 1, quoted, input =>
    let operand := fun (name : List Char) (use : List Piece → Use) (rest : List Char) =>
      match readPieces calls (.operand quoted) rest with
      | some (pieces, _ :: after) => some (Piece.parameter name (use pieces) quoted, after)
      | _ => none
    let pattern := fun (name : List Char) (use : List Piece → Use) (rest : List Char) =>
      match readPieces calls (.operand false) rest with
      | some (pieces, _ :: after) => some (Piece.parameter name (use pieces) quoted, after)
      | _ => none
    let used := fun (name rest : List Char) =>
      match rest with
      | '\x7d' :: after => some (Piece.parameter name .value quoted, after)
      | ':' :: '-' :: after => operand name (.fallback true) after
      | ':' :: '=' :: after => operand name (.assign true) after
      | ':' :: '?' :: after => operand name (.complain true) after
      | ':' :: '+' :: after => operand name (.replace true) after
      | '-' :: after => operand name (.fallback false) after
      | '=' :: after => operand name (.assign false) after
      | '?' :: after => operand name (.complain false) after
      | '+' :: after => operand name (.replace false) after
      | '#' :: '#' :: after => pattern name (.cut .front true) after
      | '#' :: after => pattern name (.cut .front false) after
      | '%' :: '%' :: after => pattern name (.cut .back true) after
      | '%' :: after => pattern name (.cut .back false) after
      | _ => none
    let measured :=
      match input with
      | '#' :: rest =>
        match bracedName rest with
        | some (name, '\x7d' :: after) => some (Piece.parameter name .length quoted, after)
        | _ => none
      | _ => none
    match measured with
    | some found => some found
    | none =>
      match bracedName input with
      | none => none
      | some (name, rest) => used name rest

/-- A word. A tilde in front stands for the home directory. -/
def readWord : Nat → List Char → Option (List Piece × List Char)
  | 0, _ => none
  | calls + 1, input =>
    match input with
    | '~' :: rest =>
      if (plainWord rest).1.isEmpty || rest.head? == some '/' then
        (readPieces calls .word rest).map (fun (pieces, after) =>
          (.parameter "HOME".toList .value true :: pieces, after))
      else readPieces calls .word input
    | _ => readPieces calls .word input

/-- One redirection, whose descriptor was read before. -/
def readRedirection : Nat → Option Nat → List Char → Option (Redirection × List Char)
  | 0, _, _ => none
  | calls + 1, descriptor, input =>
    let input? := descriptor.getD 0
    let output? := descriptor.getD 1
    let named := fun (make : List Piece → Redirection) (rest : List Char) =>
      let start := skipBlanks rest
      match readWord calls start with
      | some (word, after) => if after.length < start.length then some (make word, after) else none
      | none => none
    let document := fun (tabs : Bool) (rest : List Char) =>
      let (delimiter, quoted, after) := literalWord (skipBlanks rest)
      let (text, final) := takeDocument delimiter tabs after
      if quoted then some (Redirection.document input? [.text text true], final)
      else
        match readPieces calls .document text with
        | some (pieces, _) => some (Redirection.document input? pieces, final)
        | none => none
    match input with
    | '<' :: '<' :: '-' :: rest => document true rest
    | '<' :: '<' :: rest => document false rest
    | '<' :: '&' :: rest => named (.duplicate input?) rest
    | '<' :: '>' :: rest => named (.file input? .readWrite) rest
    | '<' :: rest => named (.file input? .read) rest
    | '>' :: '>' :: rest => named (.file output? .append) rest
    | '>' :: '&' :: rest => named (.duplicate output?) rest
    | '>' :: '|' :: rest => named (.file output? .write) rest
    | '>' :: rest => named (.file output? .write) rest
    | _ => none

/-- Redirections after a compound command. -/
def readRedirections : Nat → List Char → Option (List Redirection × List Char)
  | 0, _ => none
  | calls + 1, input =>
    match redirectionStart (skipBlanks input) with
    | none => some ([], input)
    | some (descriptor, rest) =>
      match readRedirection calls descriptor rest with
      | none => none
      | some (found, after) =>
        (readRedirections calls after).map (fun (others, final) => (found :: others, final))

/-- The rest of a simple command, given what was read of it. -/
def readSimple : Nat → List (List Char × List Piece) → List (List Piece) →
    List Redirection → List Char → Option (Command × List Char)
  | 0, _, _, _, _ => none
  | calls + 1, assignments, words, redirections, input =>
    let start := skipBlanks input
    match redirectionStart start with
    | some (descriptor, rest) =>
      match readRedirection calls descriptor rest with
      | none => none
      | some (found, after) =>
        readSimple calls assignments words (redirections ++ [found]) after
    | none =>
      match start with
      | [] => some (.simple assignments words redirections, [])
      | c :: _ =>
        if endsWord c then some (.simple assignments words redirections, start)
        else
          match assignmentName start, words with
          | some (name, rest), [] =>
            match readWord calls rest with
            | none => none
            | some (value, after) =>
              readSimple calls (assignments ++ [(name, value)]) [] redirections after
          | _, _ =>
            match readWord calls start with
            | none => none
            | some (word, after) =>
              readSimple calls assignments (words ++ [word]) redirections after

/-- Words up to the end of the line or a semicolon. -/
def readWords : Nat → List Char → Option (List (List Piece) × List Char)
  | 0, _ => none
  | calls + 1, input =>
    let start := skipBlanks input
    match start with
    | [] => some ([], [])
    | c :: _ =>
      if endsWord c then some ([], start)
      else
        match readWord calls start with
        | none => none
        | some (word, after) =>
          (readWords calls after).map (fun (others, final) => (word :: others, final))

/-- The patterns of a clause up to its closing parenthesis. -/
def readPatterns : Nat → List Char → Option (List (List Piece) × List Char)
  | 0, _ => none
  | calls + 1, input =>
    match readWord calls (skipBlanks input) with
    | none => none
    | some (pattern, rest) =>
      match skipBlanks rest with
      | ')' :: after => some ([pattern], after)
      | '|' :: after =>
        (readPatterns calls after).map (fun (others, final) => (pattern :: others, final))
      | _ => none

/-- The clauses of a choice up to its end. -/
def readClauses : Nat → List Char → Option (List Clause × List Char)
  | 0, _ => none
  | calls + 1, input =>
    let start := toNextWord input
    match skipWord "esac" start with
    | some rest => some ([], rest)
    | none =>
      let opened := match start with
        | '(' :: rest => rest
        | other => other
      match readPatterns calls opened with
      | none => none
      | some (patterns, rest) =>
        match readList calls rest with
        | none => none
        | some (body, after) =>
          match toNextWord after with
          | ';' :: ';' :: final =>
            (readClauses calls final).map
              (fun (others, last) => (.mk patterns body :: others, last))
          | final =>
            match skipWord "esac" final with
            | some last => some ([.mk patterns body], last)
            | none => none

/-- What follows the condition of a conditional: both branches up to the end. -/
def readBranches : Nat → List Char → Option ((Command × Command) × List Char)
  | 0, _ => none
  | calls + 1, input =>
    match skipWord "then" (toNextWord input) with
    | none => none
    | some rest =>
      match readList calls rest with
      | none => none
      | some (positive, after) =>
        let start := toNextWord after
        match skipWord "fi" start, skipWord "else" start, skipWord "elif" start with
        | some final, _, _ => some ((positive, .nothing), final)
        | none, some final, _ =>
          match readList calls final with
          | none => none
          | some (negative, last) =>
            (skipWord "fi" (toNextWord last)).map (fun tail => ((positive, negative), tail))
        | none, none, some final => do
          let (condition, middle) ← readList calls final
          let ((inner, other), tail) ← readBranches calls middle
          some ((positive, .conditional condition inner other), tail)
        | none, none, none => none

/-- The body of a loop. -/
def readBody : Nat → List Char → Option (Command × List Char)
  | 0, _ => none
  | calls + 1, input => do
    let rest ← skipWord "do" (toNextWord input)
    let (body, after) ← readList calls rest
    let final ← skipWord "done" (toNextWord after)
    some (body, final)

/-- A loop over words. -/
def readEach : Nat → List Char → Option (Command × List Char)
  | 0, _ => none
  | calls + 1, input => do
    let (name, rest) := plainWord (skipBlanks input)
    let dropEnd := fun (after : List Char) =>
      match skipBlanks after with
      | ';' :: final => final
      | final => final
    match skipWord "in" (toNextWord rest) with
    | some after =>
      let (words, final) ← readWords calls after
      let (body, last) ← readBody calls (dropEnd final)
      some (.each name (some words) body, last)
    | none =>
      let (body, last) ← readBody calls (dropEnd rest)
      some (.each name none body, last)

/-- A compound command, if one begins here. -/
def readCompound : Nat → List Char → Option (Option Command × List Char)
  | 0, _ => none
  | calls + 1, input =>
    match input with
    | '(' :: rest =>
      match readList calls rest with
      | some (body, ')' :: after) => some (some (.subshell body), after)
      | _ => none
    | _ =>
      let (word, rest) := plainWord input
      let loop := fun (whileFails : Bool) => do
        let (condition, middle) ← readList calls rest
        let (body, after) ← readBody calls middle
        some (some (Command.loop whileFails condition body), after)
      match String.ofList word with
      | "\x7b" => do
        let (body, after) ← readList calls rest
        let final ← skipWord "\x7d" (toNextWord after)
        some (some body, final)
      | "if" => do
        let (condition, middle) ← readList calls rest
        let ((positive, negative), after) ← readBranches calls middle
        some (some (.conditional condition positive negative), after)
      | "while" => loop false
      | "until" => loop true
      | "for" => (readEach calls rest).map (fun (body, after) => (some body, after))
      | "case" => do
        let (subject, middle) ← readWord calls (skipBlanks rest)
        let start ← skipWord "in" (toNextWord middle)
        let (clauses, after) ← readClauses calls start
        some (some (.choice subject clauses), after)
      | _ => some (none, input)

/-- One command of a pipeline. -/
def readCommand : Nat → List Char → Option (Command × List Char)
  | 0, _ => none
  | calls + 1, input => do
    match definitionName input with
    | some (name, rest) =>
      let (body, after) ← readCommand calls (toNextWord rest)
      some (.define name body, after)
    | none =>
      if listEnds input then none
      match ← readCompound calls input with
      | (some body, rest) =>
        let (redirections, after) ← readRedirections calls rest
        some (if redirections.isEmpty then body else .redirected body redirections, after)
      | (none, _) =>
        match ← readSimple calls [] [] [] input with
        | (.simple [] [] [], _) => none
        | (found, after) => some (found, after)

/-- Commands joined by bars. -/
def readPipeline : Nat → List Char → Option (Command × List Char)
  | 0, _ => none
  | calls + 1, input =>
    match skipWord "!" input with
    | some rest =>
      (readPipeline calls (skipBlanks rest)).map (fun (body, after) => (.negation body, after))
    | none => do
      let (first, rest) ← readCommand calls input
      match skipBlanks rest with
      | '|' :: '|' :: after => some (first, '|' :: '|' :: after)
      | '|' :: after =>
        let (second, final) ← readPipeline calls (toNextWord after)
        some (.pipe first second, final)
      | after => some (first, after)

/-- Pipelines joined by signs for success and failure, given what stands before. -/
def readJoined : Nat → Command → List Char → Option (Command × List Char)
  | 0, _, _ => none
  | calls + 1, first, input =>
    match skipBlanks input with
    | '&' :: '&' :: rest => do
      let (second, after) ← readPipeline calls (toNextWord rest)
      readJoined calls (.both first second) after
    | '|' :: '|' :: rest => do
      let (second, after) ← readPipeline calls (toNextWord rest)
      readJoined calls (.either first second) after
    | rest => some (first, rest)

/-- Commands up to the end of a list, which is left in place. -/
def readList : Nat → List Char → Option (Command × List Char)
  | 0, _ => none
  | calls + 1, input =>
    let start := toNextWord input
    if listEnds start then some (.nothing, start)
    else do
      let (head, rest) ← readPipeline calls start
      let (first, after) ← readJoined calls head rest
      match after with
      | ';' :: ';' :: _ => some (first, after)
      | ';' :: final =>
        (readList calls final).map (fun (others, last) => (.sequence first others, last))
      | '&' :: final =>
        (readList calls final).map
          (fun (others, last) => (.sequence (.background first) others, last))
      | '\n' :: final =>
        (readList calls final).map (fun (others, last) => (.sequence first others, last))
      | _ => some (first, after)

/-- Commands up to the end of a line. -/
def readLine : Nat → List Char → Option (Command × List Char)
  | 0, _ => none
  | calls + 1, input => do
    let (head, rest) ← readPipeline calls input
    let (first, after) ← readJoined calls head rest
    let next := fun (first : Command) (final : List Char) =>
      match skipBlanks final with
      | [] => some (first, [])
      | '\n' :: last => some (first, last)
      | other =>
        (readLine calls other).map (fun (others, last) => (Command.sequence first others, last))
    match after with
    | [] => some (first, [])
    | '\n' :: final => some (first, final)
    | ';' :: final => next first final
    | '&' :: final => next (.background first) final
    | _ => none

end

/-- The commands of the next line that has any, and the rest of the script. Without
commands nothing is left of the script. -/
def nextLine (script : List Char) : Option (Option (Command × List Char)) :=
  match toNextWord script with
  | [] => none
  | start => some (readLine (16 * (start.length + 1)) start)

end TexAtlas.Script
