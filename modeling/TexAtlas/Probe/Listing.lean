/-
Finding out which files a file loads. The baseline files, which every probe loads, are
left out, and so is the file itself. A probe that fails degrades to a dependency
without other files.
-/

import TexAtlas.Dependency
import TexAtlas.Engine
import TexAtlas.FileIndex
import TexAtlas.Probe.Document
import TexAtlas.Probe.FileTable

namespace TexAtlas.Probe

/-- Why a listing failed. -/
inductive ListingError where
  | timedOut (budget : Duration)
  | noTable
  | engine (fault : EngineFault)
  deriving DecidableEq, Repr

namespace ListingError

def ofFault : EngineFault → ListingError
  | .timedOut budget => timedOut budget
  | fault => engine fault

def message : ListingError → String
  | timedOut budget => "dependency probe timed out after " ++ budget.text
  | noTable => "transcript has no `" ++ tableHeading ++ "` section"
  | engine fault => "dependency probe failed: " ++ fault.message

end ListingError

/-- What a listing needs to know beside the file. -/
structure Lister where
  index : FileIndex
  engine : Engine
  budget : Duration
  /-- Files that every probe loads, the host class first. -/
  baseline : NameSet

namespace Lister

/-- The baseline: the host class and then the configured files. -/
def baselineOf (configured : List String) : NameSet :=
  NameSet.ofList (hostClassFile :: configured)

def call (lister : Lister) (file : File) : Call :=
  { document := listingDocument file, format := file.format, budget := lister.budget }

/-- The files a transcript lists for a file. -/
def filesIn (lister : Lister) (file : File) (transcript : String) :
    Except ListingError (List File) :=
  match fileTable transcript with
  | none => .error .noTable
  | some names =>
    .ok ((names.filter (fun name => name != file.name && !lister.baseline.contains name)).map
      lister.index.resolve)

/-- The files loaded by a file, in load order. -/
def discover (lister : Lister) (file : File) : Outcome (Except ListingError (List File)) :=
  match lister.engine (lister.call file) with
  | .transcript text => .value (lister.filesIn file text)
  | .fault fault => .value (.error (.ofFault fault))
  | .panicked panic => .panicked panic

/-- The dependency of a file. A listing that failed leaves the file without others. -/
def probe (lister : Lister) (file : File) : Outcome Dependency :=
  match lister.discover file with
  | .value (.ok found) => .value (.ofDiscovered file found)
  | .value (.error error) => .value (.degraded file error.message)
  | .panicked panic => .panicked panic

end Lister

end TexAtlas.Probe
