/-
The written form of a configuration. Every field may be left out.
-/

import TexAtlas.Configuration
import TexAtlas.Json.Form

namespace TexAtlas.Configuration

open TexAtlas.Json (Document Form Value)

/-- A field of a configuration: its name, its default, and its form. -/
def field {α : Type} (name : String) (absent : Value) (form : Form α) :
    String × Json.Absence × Json.Shape :=
  (name, .default absent, form.shape)

def millis : Form Duration :=
  let count := Form.whole "u64"
  { shape := count.shape
    write := fun duration => count.write duration.milliseconds
    ofValue := fun value => (count.ofValue value).map Duration.mk }

def count : Form Nat :=
  Form.whole "usize"

def place : Form (Option Path) :=
  Form.optional Form.path

def pattern : Form String :=
  Form.string "a string"

/-- The form of a configuration on a machine with so many processors. -/
def form (processors : Nat) : Form Configuration :=
  { shape := .record "IndexerConfig"
      [field "probe_timeout_ms" (.whole (default 0).probeBudget.milliseconds) millis,
        field "classify_timeout_ms" (.whole (default 0).classifyBudget.milliseconds) millis,
        field "max_in_flight" (.whole processors) count,
        field "sequential" (.boolean (default 0).sequential) Form.boolean,
        field "baseline_files" (.list ((default 0).baselineFiles.map .text)) Form.names,
        field "candidate_pattern" (.text (default 0).candidatePattern) pattern,
        field "texmf_root" .null place,
        field "tex_bin_dir" .null place,
        field "scratch_dir" .null place,
        field "kernel_path" .null place,
        field "overrides_path" .null place,
        field "log_dir" .null place]
    write := fun configuration => .object
      [("probe_timeout_ms", millis.write configuration.probeBudget),
        ("classify_timeout_ms", millis.write configuration.classifyBudget),
        ("max_in_flight", count.write configuration.maxInFlight),
        ("sequential", Form.boolean.write configuration.sequential),
        ("baseline_files", Form.names.write configuration.baselineFiles),
        ("candidate_pattern", pattern.write configuration.candidatePattern),
        ("texmf_root", place.write configuration.distribution),
        ("tex_bin_dir", place.write configuration.programs),
        ("scratch_dir", place.write configuration.scratch),
        ("kernel_path", place.write configuration.kernelFile),
        ("overrides_path", place.write configuration.overridesFile),
        ("log_dir", place.write configuration.logs)]
    ofValue := fun value =>
      match value with
      | .record [probeBudget, classifyBudget, maxInFlight, sequential, baselineFiles,
          candidatePattern, distribution, programs, scratch, kernelFile, overridesFile,
          logs] => do
        return { probeBudget := ← millis.ofValue probeBudget
                 classifyBudget := ← millis.ofValue classifyBudget
                 maxInFlight := ← count.ofValue maxInFlight
                 sequential := ← Form.boolean.ofValue sequential
                 baselineFiles := ← Form.names.ofValue baselineFiles
                 candidatePattern := ← pattern.ofValue candidatePattern
                 distribution := ← place.ofValue distribution
                 programs := ← place.ofValue programs
                 scratch := ← place.ofValue scratch
                 kernelFile := ← place.ofValue kernelFile
                 overridesFile := ← place.ofValue overridesFile
                 logs := ← place.ofValue logs }
      | _ => none }

end TexAtlas.Configuration
