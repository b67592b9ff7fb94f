/-
Discovering the part of the reference graph below a file that still needs work. The
files of one wave are probed together; their references that are neither known nor
settled make up the next wave. Every file is probed once per session.
-/

import TexAtlas.Graph.StrongComponents
import TexAtlas.Session.Basic

namespace TexAtlas.Session

/-- Remember a dependency unless its file has one already. -/
def remember (memo : NameMap Dependency) (dependency : Dependency) : NameMap Dependency :=
  if memo.contains dependency.name then memo else memo.insert dependency.name dependency

theorem get?_remember (memo : NameMap Dependency) (dependency : Dependency) (name : String) :
    (remember memo dependency).get? name =
      if dependency.name = name then some ((memo.get? name).getD dependency)
      else memo.get? name := by
  unfold remember
  by_cases same : dependency.name = name
  · subst same
    cases held : memo.get? dependency.name with
    | none => simp [NameMap.contains, held, NameMap.get?_insert]
    | some known => simp [NameMap.contains, held]
  · rw [if_neg same]
    split
    · rfl
    · rw [NameMap.get?_insert, if_neg same]

/-- The dependency of a probe task. A task that failed leaves the file without others. -/
def settleProbe (file : File) : Except TaskError Dependency → Dependency
  | .ok dependency => dependency
  | .error error => Dependency.degraded file error.message

/-- The files of a wave that were not probed before. -/
def pendingFiles (session : Session) (files : List File) : List File :=
  files.filter (fun file => !session.memo.contains file.name)

/-- Probe the files of a wave that were not probed before. -/
def probeWave (settings : Settings) (files : List File) (session : Session) : Session :=
  let pending := session.pendingFiles files
  let results := settings.pool.run (pending.zipIdx.map (fun (file, earlier) =>
    (settings.lister (session.asked + earlier)).probe file))
  let found := (pending.zip results).map (fun (file, result) => settleProbe file result)
  { session.note (pending.map Event.listed) with memo := found.foldl remember session.memo }

/-- What the memo holds for files. -/
def remembered (session : Session) (files : List File) : List Dependency :=
  files.filterMap (fun file => session.memo.get? file.name)

/-- Whether a referenced file still needs work: it is no node yet, is bound to no
component, and has no final state. -/
def needsWork (nodes : NameMap Dependency) (registry : Registry) (file : File) : Bool :=
  !nodes.contains file.name && !registry.contains file.name && !registry.isSettled file.name

/-- The references of a wave that make up the next one, each name once. -/
def nextWave (nodes : NameMap Dependency) (registry : Registry) (wave : List Dependency) :
    List File :=
  firstOfEachName [] ((wave.flatMap Dependency.references).filter (needsWork nodes registry))

/-- Add dependencies as nodes. -/
def addNodes (nodes : NameMap Dependency) (wave : List Dependency) : NameMap Dependency :=
  wave.foldl (fun nodes dependency => nodes.insert dependency.name dependency) nodes

/-- Grow the nodes wave by wave until no file needs work. The answer is missing where
the waves run out first. -/
def grow (settings : Settings) : Nat → List File → NameMap Dependency → Session →
    Option (NameMap Dependency × Session)
  | _, [], nodes, session => some (nodes, session)
  | 0, _ :: _, _, _ => none
  | waves + 1, file :: files, nodes, session =>
    let probed := session.probeWave settings (file :: files)
    let wave := probed.remembered (file :: files)
    let grown := addNodes nodes wave
    grow settings waves (nextWave grown probed.registry wave) grown probed

/-- The working set below an entry file. -/
def discoverClosure (settings : Settings) (entry : File) (session : Session) :
    Option (NameMap Dependency × Session) :=
  grow settings settings.waveLimit [entry] .empty session

/-- The reference graph among the nodes. -/
def referenceGraph (nodes : NameMap Dependency) : Graph :=
  NameMap.ofList (nodes.entries.map (fun (name, dependency) =>
    (name, (dependency.references.map File.name).filter nodes.contains)))

/-- The members of a group by ascending name. -/
def membersOf (nodes : NameMap Dependency) (names : List String) : List Dependency :=
  (SortedNames.ofList names).toList.filterMap nodes.get?

/-- The groups of files that load each other, with their levels. -/
def clusterNodes (nodes : NameMap Dependency) : Clustering :=
  let graph := referenceGraph nodes
  let groups := graph.strongComponents
  { components := groups.map (membersOf nodes), levels := graph.levels groups }

/-- The clustering of the working set below an entry file. -/
def cluster (settings : Settings) (entry : File) (session : Session) :
    Option (Clustering × Session) :=
  (session.discoverClosure settings entry).map
    (fun (nodes, grown) => (clusterNodes nodes, grown))

/-- What a single file loads, probed only if this session has not done so. A probe
that panics leaves nothing behind but its note in the journal. -/
def dependency (settings : Settings) (file : File) (session : Session) :
    Outcome Dependency × Session :=
  match session.memo.get? file.name with
  | some known => (.value known, session)
  | none =>
    let noted := session.note [.listed file]
    match (settings.lister session.asked).probe file with
    | .value found => (.value found, { noted with memo := remember noted.memo found })
    | .panicked panic => (.panicked panic, noted)

end TexAtlas.Session
