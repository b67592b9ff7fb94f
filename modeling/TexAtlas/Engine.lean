/-
The typesetting engine, seen from outside: it is handed a document and a time budget
and answers with a transcript or with the reason why there is none. At any one moment
an answer is a function of what was asked, so that one run can be compared with
another.
-/

import TexAtlas.Duration
import TexAtlas.File.Role
import TexAtlas.TaskPool

namespace TexAtlas

/-- Why a compilation gave no transcript. -/
inductive EngineFault where
  | timedOut (budget : Duration)
  | notStarted (program reason : String)
  | io (reason : String)
  deriving DecidableEq, Repr

namespace EngineFault

def isTimeout : EngineFault → Bool
  | timedOut _ => true
  | _ => false

def message : EngineFault → String
  | timedOut budget => "compilation exceeded its budget of " ++ budget.text
  | notStarted program reason => "failed to start " ++ program ++ ": " ++ reason
  | io reason => "I/O error during compilation: " ++ reason

end EngineFault

/-- What one call of the engine comes to. -/
inductive Reply where
  | transcript (text : String)
  | fault (fault : EngineFault)
  | panicked (panic : Panic)
  deriving DecidableEq, Repr

/-- One call of the engine. -/
structure Call where
  document : String
  format : Format
  budget : Duration
  deriving DecidableEq, Repr

/-- How an engine answers at one moment. -/
abbrev Engine := Call → Reply

end TexAtlas
