/-
Written forms. A form says how the values of a type are written as JSON and which
shape of JSON is read back. Reading checks the shape first, so the values handed to
the second half of a form have the parts that the shape promises.
-/

import TexAtlas.Json.Shape
import TexAtlas.Json.Writer
import TexAtlas.Name.Distinct
import TexAtlas.Path

namespace TexAtlas.Json

structure Form (α : Type) where
  shape : Shape
  write : α → Document
  /-- The value that was read, if it is of the shape. -/
  ofValue : Value → Option α

namespace Form

variable {α : Type}

/-- Read a whole text. A value of another shape than its form would be no value. -/
def readText (form : Form α) (text : String) : Except Fault α :=
  match form.shape.readText text with
  | .error fault => .error fault
  | .ok value =>
    match form.ofValue value with
    | some found => .ok found
    | none => .error .noValue

/-- A text, known to the reader by what was expected of it. -/
def string (expected : String) : Form String :=
  { shape := .text expected
    write := .text
    ofValue := fun value =>
      match value with
      | .text found => some found
      | _ => none }

/-- The items of a list. -/
def list (expected : String) (item : Form α) : Form (List α) :=
  { shape := .list expected item.shape
    write := fun items => .list (items.map item.write)
    ofValue := fun value =>
      match value with
      | .list items => items.mapM item.ofValue
      | _ => none }

/-- Null or a value. -/
def optional (inner : Form α) : Form (Option α) :=
  { shape := .optional inner.shape
    write := fun found =>
      match found with
      | some value => inner.write value
      | none => .null
    ofValue := fun value =>
      match value with
      | .null => some none
      | other => (inner.ofValue other).map some }

/-- One of finitely many values, each written as a word. -/
def word (all : List α) (name : α → String) : Form α :=
  { shape := .word (all.map name)
    write := fun value => .text (name value)
    ofValue := fun value =>
      match value with
      | .text found => all.find? (fun candidate => name candidate == found)
      | _ => none }

def boolean : Form Bool :=
  { shape := .boolean
    write := .boolean
    ofValue := fun value =>
      match value with
      | .boolean found => some found
      | _ => none }

/-- A number without sign; the kind is its name in faults. -/
def whole (kind : String) : Form Nat :=
  { shape := .whole kind
    write := .whole
    ofValue := fun value =>
      match value with
      | .whole found => some found
      | _ => none }

/-- Names in order, repetitions kept. -/
def names : Form (List String) :=
  list "a sequence" (string "a string")

/-- A set of names in the order of arrival. -/
def nameSet : Form NameSet :=
  let listed := list "a set" (string "a string")
  { shape := listed.shape
    write := fun names => listed.write names.toList
    ofValue := fun value => (listed.ofValue value).map NameSet.ofList }

def path : Form Path :=
  let shown := string "path string"
  { shape := shown.shape
    write := fun path => shown.write path.display
    ofValue := fun value => (shown.ofValue value).map Path.ofString }

end Form

end TexAtlas.Json
