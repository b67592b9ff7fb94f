/-
How a run is configured: time budgets, how much may run at once, the baseline, the
grammar of names, and where things are found. Every setting has a default.
-/

import TexAtlas.Duration
import TexAtlas.Probe.Document
import TexAtlas.Scanner
import TexAtlas.TaskPool

namespace TexAtlas

structure Configuration where
  probeBudget : Duration
  classifyBudget : Duration
  maxInFlight : Nat
  /-- One probe after another, in index order. -/
  sequential : Bool
  /-- Files that every probe loads beside the host class. -/
  baselineFiles : List String
  candidatePattern : String
  /-- The tree of the distribution, asked from the distribution itself where unset. -/
  distribution : Option Path
  /-- The directory of the engine programs, looked up by name where unset. -/
  programs : Option Path
  scratch : Option Path
  kernelFile : Option Path
  overridesFile : Option Path
  logs : Option Path
  deriving DecidableEq, Repr

namespace Configuration

/-- The configuration where nothing is set, on a machine with so many processors. -/
def default (processors : Nat) : Configuration :=
  { probeBudget := ⟨10000⟩
    classifyBudget := ⟨10000⟩
    maxInFlight := processors
    sequential := false
    baselineFiles := [Probe.hostClassFile]
    candidatePattern := defaultGrammar
    distribution := none
    programs := none
    scratch := none
    kernelFile := none
    overridesFile := none
    logs := none }

def mode (configuration : Configuration) : ExecutionMode :=
  if configuration.sequential then .sequential else .parallel

def pool (configuration : Configuration) : TaskPool :=
  TaskPool.ofMode configuration.mode configuration.maxInFlight

/-- The directory for logs: a hidden one in the home directory where none is set. -/
def logDirectory (configuration : Configuration) (home : Path) : Path :=
  configuration.logs.getD
    ((home.join (Path.ofString ".texscope")).join (Path.ofString "logs"))

end Configuration

end TexAtlas
