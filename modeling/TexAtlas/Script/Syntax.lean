/-
The syntax of command scripts: words made of pieces, redirections, and commands. Texts
are lists of characters below 256, one for each byte.
-/

namespace TexAtlas.Script

/-- The side of a value from which a matching part is cut off. -/
inductive Side where
  | front
  | back
  deriving DecidableEq, Repr

/-- How a redirection opens its file. -/
inductive Opening where
  | read
  | write
  | append
  | readWrite
  deriving DecidableEq, Repr

mutual

/-- A part of a word. What comes from a quoted piece is never split or matched. -/
inductive Piece where
  | text (content : List Char) (quoted : Bool)
  | parameter (name : List Char) (use : Use) (quoted : Bool)
  /-- The output of a command. -/
  | output (command : Command) (quoted : Bool)
  /-- The value of an arithmetic expression. -/
  | sum (expression : List Piece) (quoted : Bool)

/-- What is done with the value of a parameter. Where `emptyToo` is set, an empty value
is treated like a missing one. -/
inductive Use where
  | value
  | length
  | fallback (emptyToo : Bool) (word : List Piece)
  | assign (emptyToo : Bool) (word : List Piece)
  | complain (emptyToo : Bool) (word : List Piece)
  | replace (emptyToo : Bool) (word : List Piece)
  | cut (side : Side) (longest : Bool) (pattern : List Piece)

inductive Redirection where
  | file (descriptor : Nat) (opening : Opening) (name : List Piece)
  | duplicate (descriptor : Nat) (source : List Piece)
  /-- The text that follows is the input. -/
  | document (descriptor : Nat) (text : List Piece)

/-- One clause of a choice: its patterns and what they lead to. -/
inductive Clause where
  | mk (patterns : List (List Piece)) (body : Command)

inductive Command where
  | nothing
  | simple (assignments : List (List Char × List Piece)) (words : List (List Piece))
      (redirections : List Redirection)
  | redirected (body : Command) (redirections : List Redirection)
  | subshell (body : Command)
  | background (body : Command)
  | sequence (first second : Command)
  /-- The second command runs where the first one succeeds. -/
  | both (first second : Command)
  /-- The second command runs where the first one fails. -/
  | either (first second : Command)
  | negation (body : Command)
  | pipe (first second : Command)
  | conditional (condition positive negative : Command)
  /-- Run the body as long as the condition succeeds, or as long as it fails. -/
  | loop (whileFails : Bool) (condition body : Command)
  /-- Run the body for each word, or for each argument of the script. -/
  | each (name : List Char) (words : Option (List (List Piece))) (body : Command)
  | choice (subject : List Piece) (clauses : List Clause)
  | define (name : List Char) (body : Command)

end

end TexAtlas.Script
