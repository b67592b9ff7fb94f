/-
Setting up a session from a configuration.
-/

import TexAtlas.Configuration
import TexAtlas.Failure
import TexAtlas.Session.Basic

namespace TexAtlas.Settings

/-- More waves than any distribution has files, so a closure that ends at all ends
before them. -/
def ampleWaves : Nat := 16777216

/-- The settings of a configuration, for a given index, engine, kernel and way to read
sources. They exist when the configured pattern is one and its pool can be made. Tasks of
one level are scheduled one after the other. -/
def ofConfiguration (configuration : Configuration) (index : FileIndex)
    (engine : Nat → Engine) (kernel : Kernel) (read : Nat → ByteReader) :
    Except Failure Settings :=
  match Pattern.parse configuration.candidatePattern, configuration.pool.make with
  | .error _, _ => .error (.badPattern configuration.candidatePattern)
  | .ok _, .panicked panic => .error (.panicked panic)
  | .ok pattern, .value pool =>
    .ok { index := index
          engine := engine
          probeBudget := configuration.probeBudget
          classifyBudget := configuration.classifyBudget
          baseline := Probe.Lister.baselineOf configuration.baselineFiles
          kernel := kernel
          grammar := pattern.program
          read := read
          pool := pool
          schedule := fun _ => []
          waveLimit := ampleWaves }

end TexAtlas.Settings
