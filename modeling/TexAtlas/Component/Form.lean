/-
The written forms of components and of the kernel.
-/

import TexAtlas.Component
import TexAtlas.Json.Form

namespace TexAtlas

open TexAtlas.Json (Form)

/-- A component is written with all its fields. -/
def Component.form : Form Component :=
  { shape := .record "Component"
      [("fileNames", .required, Form.names.shape),
        ("references", .required, Form.names.shape),
        ("commands", .required, Form.nameSet.shape),
        ("environments", .required, Form.nameSet.shape)]
    write := fun component => .object
      [("fileNames", Form.names.write component.fileNames),
        ("references", Form.names.write component.references),
        ("commands", Form.nameSet.write component.commands),
        ("environments", Form.nameSet.write component.environments)]
    ofValue := fun value =>
      match value with
      | .record [fileNames, references, commands, environments] => do
        return { fileNames := ← Form.names.ofValue fileNames
                 references := ← Form.names.ofValue references
                 commands := ← Form.nameSet.ofValue commands
                 environments := ← Form.nameSet.ofValue environments }
      | _ => none }

def Component.listForm : Form (List Component) :=
  Form.list "a sequence" Component.form

/-- Either half of the kernel may be left out. -/
def Kernel.form : Form Kernel :=
  { shape := .record "KernelPrimitives"
      [("commands", .default (.list []), Form.nameSet.shape),
        ("environments", .default (.list []), Form.nameSet.shape)]
    write := fun kernel => .object
      [("commands", Form.nameSet.write kernel.commands),
        ("environments", Form.nameSet.write kernel.environments)]
    ofValue := fun value =>
      match value with
      | .record [commands, environments] => do
        return { commands := ← Form.nameSet.ofValue commands
                 environments := ← Form.nameSet.ofValue environments }
      | _ => none }

end TexAtlas
