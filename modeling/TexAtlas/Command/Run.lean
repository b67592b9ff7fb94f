/-
The commands: indexing a distribution, listing what a file loads, and showing the
component of a file. A run answers with what it prints, the status it ends with, and the
file tree that it leaves.
-/

import TexAtlas.Command.Arguments
import TexAtlas.Deployment
import TexAtlas.Session.Resolve

namespace TexAtlas.Command

open TexAtlas.Host (System Tree)

/-- Why a command failed. -/
inductive Complaint where
  | failure (failure : Failure)
  | unclassified (name : String)
  | withoutComponent (name : String)
  /-- The output could not be written. -/
  | unwritten (fault : Host.Fault)
  /-- What a file loads, and what those files load, never comes to an end. -/
  | endless
  /-- The engine broke down while a single file was looked at. -/
  | brokenDown (panic : Panic)

def Complaint.message : Complaint → String
  | failure cause => cause.message
  | unclassified name => "could not classify " ++ name
  | withoutComponent name => name ++ " has no component"
  | unwritten fault => fault.message
  | endless => "the files to be indexed do not end"
  | brokenDown panic => panic.text

/-- All components after indexing, overrides applied, and the kernel behind them. -/
def indexed (settings : Settings) (overrides : List OverrideEntry) (limit : Option Nat) :
    Except Complaint (List Component) × Session :=
  let targets := Session.targets settings
  let files := match limit with
    | some count => targets.take count
    | none => targets
  match Session.initial.index settings files with
  | none => (.error .endless, .initial)
  | some (_, session) =>
    let final := (session.applyOverrides overrides).2
    (.ok (final.exported settings), final)

/-- The component of a file, overrides applied. -/
def classified (settings : Settings) (overrides : List OverrideEntry) (name : String) :
    Except Complaint Component × Session :=
  match Session.initial.resolve settings (settings.index.resolve name) with
  | none => (.error .endless, .initial)
  | some (none, session) => (.error (.unclassified name), session)
  | some (some _, session) =>
    let final := (session.applyOverrides overrides).2
    match final.registry.get? name with
    | some bound => (.ok bound.component, final)
    | none => (.error (.withoutComponent name), final)

/-- The files that a file loads, itself left out. -/
def loaded (settings : Settings) (name : String) : Except Complaint (List File) × Session :=
  match Session.initial.dependency settings (settings.index.resolve name) with
  | (.value dependency, session) => (.ok (dependency.includes.drop 1), session)
  | (.panicked panic, session) => (.error (.brokenDown panic), session)

/-- How a run ends. -/
structure Ending where
  status : Nat
  output : String
  complaint : Option Complaint
  tree : Tree

namespace Ending

def success (output : String) (tree : Tree) : Ending :=
  { status := 0, output := output, complaint := none, tree := tree }

/-- An ending that says nothing. -/
def silent (status : Nat) (tree : Tree) : Ending :=
  { status := status, output := "", complaint := none, tree := tree }

/-- The status of a run that broke down. -/
def brokenStatus : Nat := 101

def failed (tree : Tree) : Complaint → Ending
  | .failure (.panicked _) | .brokenDown _ => silent brokenStatus tree
  | complaint => { status := 1, output := "", complaint := some complaint, tree := tree }

def ofResult : Except Complaint String × Tree → Ending
  | (.ok output, tree) => success output tree
  | (.error complaint, tree) => failed tree complaint

/-- Write a text to a file of the tree, or to the output where the path leads there. -/
def written (tree : Tree) (path : Path) (text : String) : Ending :=
  match tree.writeBytes path text.toUTF8.toList, tree.lookup path with
  | .error fault, _ => failed tree (.unwritten fault)
  | .ok left, .ok (_, .device .output) => success text left
  | .ok left, _ => success "" left

end Ending

/-- Carry out a work on the installed distribution. -/
def deployed {α : Type} (system : System) (configuration : Configuration)
    (work : Settings → Except Complaint α × Session) : Except Complaint α × Tree :=
  match Deployment.carryOut system configuration work with
  | (.ok result, tree) => (result, tree)
  | (.error failure, tree) => (.error (.failure failure), tree)

/-- Carry out a work for which the overrides are loaded first. -/
def deployedWithOverrides {α : Type} (system : System) (configuration : Configuration)
    (work : List OverrideEntry → Settings → Except Complaint α × Session) :
    Except Complaint α × Tree :=
  match Loading.configuredOverrides system.tree configuration with
  | .ok overrides => deployed system configuration (work overrides)
  | .error failure => (.error (.failure failure), system.tree)

/-- Index a distribution and print or write the components. -/
def runIndex (system : System) (configuration : Configuration) (out : Option Path)
    (limit : Option Nat) : Ending :=
  let (result, tree) := deployedWithOverrides system configuration
    (fun overrides settings => indexed settings overrides limit)
  match result.map (fun components => (Component.listForm.write components).indented), out with
  | .error complaint, _ => .failed tree complaint
  | .ok text, none => .success (text ++ "\n") tree
  | .ok text, some path => .written tree path text

def runDeps (system : System) (configuration : Configuration) (name : String) : Ending :=
  let (result, tree) := deployed system configuration (fun settings => loaded settings name)
  .ofResult (result.map (fun files =>
    String.join (files.map (fun file => file.display ++ "\n"))), tree)

def runClassify (system : System) (configuration : Configuration) (name : String) : Ending :=
  let (result, tree) := deployedWithOverrides system configuration
    (fun overrides settings => classified settings overrides name)
  .ofResult (result.map (fun component =>
    (Component.form.write component).indented ++ "\n"), tree)

/-- The configuration of an invocation: what the file says, unless the command line
says otherwise. -/
def configurationOf (system : System) (invocation : Invocation) :
    Except Failure Configuration :=
  (Loading.configurationOr system.processors system.tree invocation.configuration).map
    (fun found =>
      { found with
        sequential := found.sequential || invocation.sequential
        maxInFlight := invocation.jobs.getD found.maxInFlight })

def versionText : String := "texscope 0.1.0\n"

def helpText : String :=
  "Builds a knowledge base of the commands and environments TeX packages define\n\n" ++
  "Usage: texscope [OPTIONS] <COMMAND>\n\n" ++
  "Commands:\n" ++
  "  index     Index every class and package and write the component list as JSON\n" ++
  "  deps      Print the files loaded by a class or package\n" ++
  "  classify  Resolve one class or package and print its component\n\n" ++
  "Options:\n" ++
  "      --config <FILE>  JSON configuration file; every field is optional\n" ++
  "      --sequential     Run probes one at a time\n" ++
  "  -j, --jobs <N>       Maximum number of engine processes running at once\n" ++
  "  -h, --help           Print help\n" ++
  "  -V, --version        Print version\n"

/-- Run an invocation. A directory for logs is made first, and without one nothing
runs. -/
def runInvocation (system : System) (invocation : Invocation) : Ending :=
  match configurationOf system invocation with
  | .error failure => .failed system.tree (.failure failure)
  | .ok configuration =>
    match system.tree.makeDirectories (configuration.logDirectory system.home) with
    | .error _ => .silent Ending.brokenStatus system.tree
    | .ok tree =>
      let ready := { system with tree := tree }
      match invocation.command with
      | .index out limit => runIndex ready configuration out limit
      | .deps name => runDeps ready configuration name
      | .classify name => runClassify ready configuration name

/-- Run the program with its arguments. -/
def run (system : System) (arguments : List String) : Ending :=
  match Invocation.ofArguments arguments with
  | .ok invocation => runInvocation system invocation
  | .error .version => .success versionText system.tree
  | .error .help => .success helpText system.tree
  | .error .usage => .silent 2 system.tree

end TexAtlas.Command
