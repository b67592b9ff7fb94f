/-
Reading JSON text for which it is known what to expect. A shape describes the values
that are allowed; reading takes the text from left to right and stops at the first
problem, be it of syntax or of shape.
-/

import TexAtlas.Json.Skip

namespace TexAtlas.Json

/-- A value that was read according to a shape. Fields of a record come in the order
in which the shape declares them. -/
inductive Value where
  | null
  | boolean (value : Bool)
  | whole (value : Nat)
  | text (value : String)
  | list (items : List Value)
  | record (fields : List Value)

/-- What stands for a field that is not written. -/
inductive Absence where
  | required
  /-- Absent in an object means null; in a list of fields it has to be written. -/
  | nullable
  | default (value : Value)

inductive Shape where
  | boolean
  /-- A number without sign or fraction; the name tells its kind to the reader. -/
  | whole (kind : String)
  | text (expected : String)
  | optional (inner : Shape)
  | list (expected : String) (items : Shape)
  | record (name : String) (fields : List (String × Absence × Shape))
  | word (allowed : List String)

/-- The fault of a value that is not of the expected type. A scalar is read before it
is refused, so its own faults come first. -/
def refuse {α : Type} (expected : String) (input : List Char) : Except Fault α :=
  let keyword := fun (letters : String) (rest : List Char) (found : Found) =>
    match readKeyword letters.toList rest with
    | .error fault => .error fault
    | .ok _ => .error (.wrongType found expected)
  let number := fun (negative : Bool) (rest : List Char) =>
    match readNumber negative rest with
    | .error fault => .error fault
    | .ok (found, _) => .error (.wrongType found.found expected)
  match input with
  | [] => .error .endInValue
  | 'n' :: rest => keyword "ull" rest .null
  | 't' :: rest => keyword "rue" rest (.boolean true)
  | 'f' :: rest => keyword "alse" rest (.boolean false)
  | '-' :: rest => number true rest
  | '"' :: rest =>
    match readText rest with
    | .error fault => .error fault
    | .ok (found, _) => .error (.wrongType (.text found) expected)
  | '[' :: _ => .error (.wrongType .sequence expected)
  | '\x7b' :: _ => .error (.wrongType .map expected)
  | c :: _ => if c.isDigit then number false input else .error .noValue

def readBoolean (input : List Char) : Read Value :=
  match input with
  | 't' :: rest => (readKeyword "rue".toList rest).map (fun (_, after) => (.boolean true, after))
  | 'f' :: rest => (readKeyword "alse".toList rest).map (fun (_, after) => (.boolean false, after))
  | _ => refuse "a boolean" input

def acceptWhole (kind : String) : Number × List Char → Read Value
  | (.natural value, rest) => .ok (.whole value, rest)
  | (.negative value, _) => .error (.wrongValue (.whole (-(value : Int))) kind)
  | (.floating value, _) => .error (.wrongType (.floating value) kind)

def readWhole (kind : String) (input : List Char) : Read Value :=
  match input with
  | '-' :: rest => (readNumber true rest).bind (acceptWhole kind)
  | c :: _ =>
    if c.isDigit then (readNumber false input).bind (acceptWhole kind) else refuse kind input
  | [] => .error .endInValue

def readString (expected : String) (input : List Char) : Read Value :=
  match input with
  | '"' :: rest => (readText rest).map (fun (found, after) => (.text found, after))
  | _ => refuse expected input

def readNull (expected : String) (input : List Char) : Read Unit :=
  match input with
  | 'n' :: rest => readKeyword "ull".toList rest
  | _ => refuse expected input

/-! ### Sequences and maps -/

/-- Whether another item follows in a list; if so, the input at that item, else the
input after the list. -/
def nextItem (first : Bool) (input : List Char) : Read Bool :=
  match skipSpace input with
  | [] => .error .endInList
  | ']' :: rest => .ok (false, rest)
  | ',' :: rest =>
    if first then .ok (true, ',' :: rest)
    else match skipSpace rest with
      | [] => .error .endInValue
      | ']' :: _ => .error .trailingComma
      | item => .ok (true, item)
  | c :: rest => if first then .ok (true, c :: rest) else .error .noListComma

/-- Read the items of a list and its end. Every turn takes at least one character. -/
def readItems (item : List Char → Read Value) : Nat → Bool → List Value → List Char →
    Read (List Value)
  | 0, _, _, _ => .error .tooDeep
  | turns + 1, first, items, input =>
    match nextItem first input with
    | .error fault => .error fault
    | .ok (false, rest) => .ok (items.reverse, rest)
    | .ok (true, rest) =>
      match item rest with
      | .error fault => .error fault
      | .ok (found, after) => readItems item turns false (found :: items) after

/-- The end of a list whose items were all read. -/
def endList (input : List Char) : Read Unit :=
  match skipSpace input with
  | [] => .error .endInList
  | ']' :: rest => .ok ((), rest)
  | ',' :: rest =>
    match skipSpace rest with
    | ']' :: _ => .error .trailingComma
    | _ => .error .trailingCharacters
  | _ => .error .trailingCharacters

/-- The quote of the next key in an object, or nothing at the end of the object. -/
def nextKey (first : Bool) (input : List Char) : Read Bool :=
  match skipSpace input with
  | [] => .error .endInObject
  | '\x7d' :: rest => .ok (false, rest)
  | ',' :: rest =>
    if first then .error .keyNotText
    else match skipSpace rest with
      | [] => .error .endInValue
      | '\x7d' :: _ => .error .trailingComma
      | '"' :: key => .ok (true, key)
      | _ => .error .keyNotText
  | '"' :: key => if first then .ok (true, key) else .error .noObjectComma
  | _ => if first then .error .keyNotText else .error .noObjectComma

def readColon (input : List Char) : Read Unit :=
  match skipSpace input with
  | [] => .error .endInObject
  | ':' :: rest => .ok ((), rest)
  | _ => .error .noColon

/-- A field while its record is being read. -/
structure FieldState where
  name : String
  absence : Absence
  shape : Shape
  value : Option Value

/-- The value of a field that an object does not write. -/
def FieldState.inObject (field : FieldState) : Except Fault Value :=
  match field.value, field.absence with
  | some value, _ => .ok value
  | none, .required => .error (.missingField field.name)
  | none, .nullable => .ok .null
  | none, .default value => .ok value

/-- Read the members of an object and its end. Fields may come in any order and at
most once; members that are no fields are passed over. -/
def readMembers (read : Shape → List Char → Read Value) : Nat → Bool → List FieldState →
    List Char → Read (List FieldState)
  | 0, _, _, _ => .error .tooDeep
  | turns + 1, first, fields, input =>
    match nextKey first input with
    | .error fault => .error fault
    | .ok (false, rest) => .ok (fields, rest)
    | .ok (true, rest) =>
      match readText rest with
      | .error fault => .error fault
      | .ok (key, after) =>
        match fields.find? (fun field => field.name == key) with
        | none =>
          match (readColon after).bind (fun (_, value) => skipValue value) with
          | .error fault => .error fault
          | .ok (_, final) => readMembers read turns false fields final
        | some field =>
          if field.value.isSome then .error (.repeatedField key)
          else
            match (readColon after).bind (fun (_, value) => read field.shape value) with
            | .error fault => .error fault
            | .ok (value, final) =>
              readMembers read turns false
                (fields.map (fun other =>
                  if other.name == key then { other with value := some value } else other))
                final

/-- Read the fields of a record written as a list, in declaration order. Fields with a
default may be left out at the end. The last part of the answer says whether the end
of the list was reached. -/
def readPositions (read : Shape → List Char → Read Value) (record : String) (size : Nat) :
    Nat → Bool → List (String × Absence × Shape) → List Char → Read (List Value × Bool)
  | _, ended, [], input => .ok (([], ended), input)
  | position, true, (_, absence, _) :: fields, input =>
    match absence with
    | .default value =>
      (readPositions read record size (position + 1) true fields input).map
        (fun ((values, ended), rest) => ((value :: values, ended), rest))
    | _ => .error (.badLength position record size)
  | position, false, (_, absence, shape) :: fields, input =>
    match nextItem (position == 0) input with
    | .error fault => .error fault
    | .ok (false, rest) =>
      match absence with
      | .default value =>
        (readPositions read record size (position + 1) true fields rest).map
          (fun ((values, ended), final) => ((value :: values, ended), final))
      | _ => .error (.badLength position record size)
    | .ok (true, item) =>
      match read shape item with
      | .error fault => .error fault
      | .ok (value, rest) =>
        (readPositions read record size (position + 1) false fields rest).map
          (fun ((values, ended), final) => ((value :: values, ended), final))

/-- One of the allowed words. -/
def acceptWord (allowed : List String) (word : String) : Except Fault Value :=
  if allowed.contains word then .ok (.text word) else .error (.unknownWord word allowed)

/-- Read a word written as an object with one member whose value is null. -/
def readTaggedWord (allowed : List String) (input : List Char) : Read Value :=
  match readString "variant identifier" (skipSpace input) with
  | .error fault => .error fault
  | .ok (.text word, rest) =>
    match acceptWord allowed word with
    | .error fault => .error fault
    | .ok value =>
      match (readColon rest).bind (fun (_, payload) => readNull "unit" (skipSpace payload)) with
      | .error fault => .error fault
      | .ok (_, after) =>
        match skipSpace after with
        | [] => .error .endInObject
        | '\x7d' :: final => .ok (value, final)
        | _ => .error .noValue
  | .ok _ => .error .noValue

/-- Read a word, in either of its forms. -/
def readWord (allowed : List String) (depth : Nat) (input : List Char) : Read Value :=
  match input with
  | [] => .error .endInValue
  | '"' :: rest =>
    match readText rest with
    | .error fault => .error fault
    | .ok (word, after) => (acceptWord allowed word).map (fun value => (value, after))
  | '\x7b' :: rest => if depth = 0 then .error .tooDeep else readTaggedWord allowed rest
  | _ => .error .noValue

/-! ### Values -/

def fieldStates (fields : List (String × Absence × Shape)) : List FieldState :=
  fields.map (fun (name, absence, shape) => ⟨name, absence, shape, none⟩)

/-- Read a record as an object or as a list of its fields. -/
def readRecord (read : Shape → List Char → Read Value) (depth : Nat) (name : String)
    (fields : List (String × Absence × Shape)) (input : List Char) : Read Value :=
  match input with
  | '[' :: rest =>
    if depth = 0 then .error .tooDeep
    else
      match readPositions read name fields.length 0 false fields rest with
      | .error fault => .error fault
      | .ok ((values, true), after) => .ok (.record values, after)
      | .ok ((values, false), after) =>
        (endList after).map (fun (_, final) => (.record values, final))
  | '\x7b' :: rest =>
    if depth = 0 then .error .tooDeep
    else
      match readMembers read (rest.length + 1) true (fieldStates fields) rest with
      | .error fault => .error fault
      | .ok (states, after) =>
        (states.mapM FieldState.inObject).map (fun values => (.record values, after))
  | _ => refuse ("struct " ++ name) input

/-- Read a value of a shape, where `depth` more containers may be opened. -/
def Shape.read : Nat → Shape → List Char → Read Value
  | 0, _, _ => .error .tooDeep
  | depth + 1, shape, spaced =>
    let input := skipSpace spaced
    match shape with
    | .boolean => readBoolean input
    | .whole kind => readWhole kind input
    | .text expected => readString expected input
    | .word allowed => readWord allowed depth input
    | .optional inner =>
      match input with
      | 'n' :: rest => (readKeyword "ull".toList rest).map (fun (_, after) => (.null, after))
      | _ => Shape.read depth inner input
    | .list expected items =>
      match input with
      | '[' :: rest =>
        if depth = 0 then .error .tooDeep
        else
          (readItems (Shape.read depth items) (rest.length + 1) true [] rest).map
            (fun (found, after) => (.list found, after))
      | _ => refuse expected input
    | .record name fields => readRecord (Shape.read depth) depth name fields input

/-- How deep containers may nest. -/
def depthLimit : Nat := 128

/-- Read a whole text as one value. -/
def Shape.readText (shape : Shape) (text : String) : Except Fault Value :=
  match shape.read depthLimit text.toList with
  | .error fault => .error fault
  | .ok (value, rest) =>
    if (skipSpace rest).isEmpty then .ok value else .error .trailingCharacters

end TexAtlas.Json
