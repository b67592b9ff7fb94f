/-
What can keep the program from doing its work.
-/

import TexAtlas.Engine
import TexAtlas.Host.Fault
import TexAtlas.Json.Fault

namespace TexAtlas

inductive Failure where
  | io (reason : String)
  /-- A text is not the JSON that was expected. -/
  | malformed (fault : Json.Fault)
  | unreadable (path reason : String)
  | misconfigured (reason : String)
  /-- The configured pattern for candidate names is no pattern. -/
  | badPattern (pattern : String)
  /-- The tree of the distribution could not be found. -/
  | unindexed (reason : String)
  | engine (fault : EngineFault)
  | internal (error : TaskError)
  /-- Something that should not happen, after which nothing goes on. -/
  | panicked (panic : Panic)

namespace Failure

def message : Failure → String
  | io reason => "I/O error: " ++ reason
  | malformed fault => "JSON serialization/deserialization error: " ++ fault.message
  | unreadable path reason => "failed to read " ++ path ++ ": " ++ reason
  | misconfigured reason => "invalid configuration: " ++ reason
  | badPattern pattern =>
    "invalid configuration: invalid candidate pattern " ++ Text.quoted pattern ++ ": "
  | unindexed reason => "name index error: " ++ reason
  | engine fault => fault.message
  | internal error => "Internal error: " ++ error.message
  | panicked panic => panic.text

end Failure

end TexAtlas
