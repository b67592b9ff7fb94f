/-
Passing over a JSON value that nobody asked for. The value must be valid; how deep it
nests does not matter, because the containers still open are kept on a list.
-/

import TexAtlas.Json.Lexeme

namespace TexAtlas.Json

inductive Container where
  | list
  | object
  deriving DecidableEq, Repr

namespace Container

def closing : Container → Char
  | list => ']'
  | object => '\x7d'

def noComma : Container → Fault
  | list => .noListComma
  | object => .noObjectComma

def ended : Container → Fault
  | list => .endInList
  | object => .endInObject

end Container

/-- What comes next: a value, or what may follow a value in the innermost container.
`fresh` is set directly after a container was opened. -/
inductive Expecting where
  | value
  | afterValue (fresh : Bool)

/-- Pass over a key and the colon after it. -/
def skipKey (input : List Char) : Read Unit :=
  match skipSpace input with
  | [] => .error .endInObject
  | '"' :: rest =>
    match skipText rest with
    | .error fault => .error fault
    | .ok (_, after) =>
      match skipSpace after with
      | [] => .error .endInObject
      | ':' :: final => .ok ((), final)
      | _ => .error .noColon
  | _ => .error .keyNotText

/-- Pass over what begins a value: all of a scalar, or the bracket of a container. -/
def skipHead (input : List Char) : Read (Option Container) :=
  let scalar := fun (read : Read Unit) => read.map (fun (_, rest) => (none, rest))
  match skipSpace input with
  | [] => .error .endInValue
  | 'n' :: rest => scalar (readKeyword "ull".toList rest)
  | 't' :: rest => scalar (readKeyword "rue".toList rest)
  | 'f' :: rest => scalar (readKeyword "alse".toList rest)
  | '-' :: rest => scalar (skipNumber rest)
  | '"' :: rest => scalar (skipText rest)
  | '[' :: rest => .ok (some .list, rest)
  | '\x7b' :: rest => .ok (some .object, rest)
  | c :: rest => if c.isDigit then scalar (skipNumber (c :: rest)) else .error .noValue

/-- Go on to the next value of a container: in an object its key comes first. -/
def enterNext (container : Container) (input : List Char) : Read Unit :=
  match container with
  | .list => .ok ((), input)
  | .object => skipKey input

/-- Pass over values until no container is open. Every turn takes at least one
character or changes from one expectation to the other, so two turns per character
are enough. -/
def skipFrom : Nat → List Container → Expecting → List Char → Read Unit
  | 0, _, _, _ => .error .tooDeep
  | turns + 1, containers, .value, input =>
    match skipHead input with
    | .error fault => .error fault
    | .ok (some container, rest) =>
      skipFrom turns (container :: containers) (.afterValue true) rest
    | .ok (none, rest) => skipFrom turns containers (.afterValue false) rest
  | _ + 1, [], .afterValue _, input => .ok ((), input)
  | turns + 1, container :: outer, .afterValue fresh, input =>
    let next := fun (rest : List Char) =>
      match enterNext container rest with
      | .error fault => .error fault
      | .ok (_, after) => skipFrom turns (container :: outer) .value after
    match skipSpace input with
    | [] => .error container.ended
    | c :: rest =>
      if c == ',' && !fresh then next rest
      else if c == container.closing then skipFrom turns outer (.afterValue false) rest
      else if fresh then next (c :: rest)
      else .error container.noComma

/-- Pass over one value. -/
def skipValue (input : List Char) : Read Unit :=
  skipFrom (2 * input.length + 2) [] .value input

end TexAtlas.Json
