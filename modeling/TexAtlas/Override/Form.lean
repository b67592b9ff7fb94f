/-
The written form of a list of overrides.
-/

import TexAtlas.Json.Form
import TexAtlas.Override

namespace TexAtlas.OverrideEntry

open TexAtlas.Json (Form)

/-- An entry needs a name; symbols may be left out. -/
def form : Form OverrideEntry :=
  { shape := .record "OverrideEntry"
      [("name", .required, .text "a string"),
        ("commands", .default (.list []), Form.names.shape),
        ("environments", .default (.list []), Form.names.shape)]
    write := fun entry => .object
      [("name", .text entry.name),
        ("commands", Form.names.write entry.commands),
        ("environments", Form.names.write entry.environments)]
    ofValue := fun value =>
      match value with
      | .record [name, commands, environments] => do
        return { name := ← (Form.string "a string").ofValue name
                 commands := ← Form.names.ofValue commands
                 environments := ← Form.names.ofValue environments }
      | _ => none }

/-- The entries of a file of overrides. -/
def listForm : Form (List OverrideEntry) :=
  let entries := Form.list "a sequence" form
  { shape := .record "Overrides" [("components", .default (.list []), entries.shape)]
    write := fun found => .object [("components", entries.write found)]
    ofValue := fun value =>
      match value with
      | .record [components] => entries.ofValue components
      | _ => none }

end TexAtlas.OverrideEntry
