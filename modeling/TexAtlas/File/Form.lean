/-
The written forms of roles, formats and files. A written file carries its role beside
its name, and a reader takes both at their word.
-/

import TexAtlas.File.Basic
import TexAtlas.Json.Form

namespace TexAtlas

open TexAtlas.Json (Form)

def Role.all : List Role := [.documentClass, .style, .other]

def Role.form : Form Role :=
  Form.word Role.all Role.word

def Format.all : List Format := [.latex, .lualatex, .xelatex]

def Format.form : Form Format :=
  Form.word Format.all Format.program

/-- A file as it is written. -/
structure FileRecord where
  name : String
  path : Option Path
  role : Role
  deriving DecidableEq, Repr

/-- The record of a file has the role that the name gives it. -/
def File.record (file : File) : FileRecord :=
  { name := file.name, path := file.path, role := file.role }

namespace FileRecord

def form : Form FileRecord :=
  let path := Form.optional Form.path
  { shape := .record "File"
      [("name", .required, .text "a string"),
        ("path", .nullable, path.shape),
        ("role", .required, Role.form.shape)]
    write := fun file => .object
      [("name", .text file.name),
        ("path", path.write file.path),
        ("role", Role.form.write file.role)]
    ofValue := fun value =>
      match value with
      | .record [name, found, role] => do
        return { name := ← (Form.string "a string").ofValue name
                 path := ← path.ofValue found
                 role := ← Role.form.ofValue role }
      | _ => none }

end FileRecord

end TexAtlas
