/-
Asking the engine which candidate names are defined once a file is loaded.
-/

import TexAtlas.Engine
import TexAtlas.Probe.Document
import TexAtlas.Probe.Tagged

namespace TexAtlas.Probe

/-- Why a file could not be classified. -/
inductive ClassifyError where
  | timedOut (file : String) (budget : Duration)
  | engine (file : String) (fault : EngineFault)
  | scan (file : String) (reason : String)
  deriving DecidableEq, Repr

namespace ClassifyError

def ofFault (file : String) : EngineFault → ClassifyError
  | .timedOut budget => timedOut file budget
  | fault => engine file fault

def message : ClassifyError → String
  | timedOut file budget => "classification of " ++ file ++ " timed out after " ++ budget.text
  | engine file fault => "classification of " ++ file ++ " failed: " ++ fault.message
  | scan file reason => "candidate scan for " ++ file ++ " failed: " ++ reason

end ClassifyError

structure Classifier where
  engine : Engine
  budget : Duration

namespace Classifier

def call (classifier : Classifier) (file : File) (candidates : SortedNames) : Call :=
  { document := classificationDocument file candidates
    format := file.format
    budget := classifier.budget }

/-- The calls a classification makes: none where there is nothing to ask. -/
def calls (classifier : Classifier) (file : File) (candidates : SortedNames) : List Call :=
  if candidates.isEmpty then [] else [classifier.call file candidates]

/-- The candidates that are defined once the file is loaded. -/
def classify (classifier : Classifier) (file : File) (candidates : SortedNames) :
    Outcome (Except ClassifyError Classification) :=
  if candidates.isEmpty then .value (.ok .empty)
  else
    match classifier.engine (classifier.call file candidates) with
    | .transcript text => .value (.ok (readTagged text))
    | .fault fault => .value (.error (.ofFault file.name fault))
    | .panicked panic => .panicked panic

end Classifier

end TexAtlas.Probe
