/-
Resolving files: the closure of a file is clustered, and its levels are attributed from
the lowest up, so that everything a group refers to is settled before the group. The
baseline files are resolved before anything that could mention their symbols.
-/

import TexAtlas.Override
import TexAtlas.Session.Attribution
import TexAtlas.Session.Closure

namespace TexAtlas

/-- Summary of one indexing run. -/
structure Report where
  /-- Classes and styles considered. -/
  files : Nat
  components : Nat
  /-- Distinct files probed. -/
  probed : Nat
  skipped : List String
  deriving DecidableEq, Repr

namespace Session

/-- Mark the members of a clustering as discovered and clustered. -/
def markMembers (clustering : Clustering) (registry : Registry) : Registry :=
  (clustering.components.flatten.map Dependency.name).foldl
    (fun registry name =>
      (registry.advance name .dependenciesDiscovered).advance name .clustered)
    registry

/-- Attribute the levels of a clustering from the lowest up. -/
def attributeLevels (settings : Settings) (levels : List (List (List Dependency)))
    (session : Session) : Session :=
  levels.foldl
    (fun session level => session.attributeLevel settings (scheduleOf settings level) level)
    session

/-- Work on a clustering: mark its members and attribute its levels. -/
def attributeClustering (settings : Settings) (clustering : Clustering) (session : Session) :
    Session :=
  attributeLevels settings clustering.byLevel
    { session with registry := markMembers clustering session.registry }

/-- Resolve a file with every unresolved file below it. A file that is bound or skipped
is left alone. -/
def resolveClosure (settings : Settings) (file : File) (session : Session) :
    Option (Option Instance × Session) :=
  match session.registry.get? file.name with
  | some known => some (some known, session)
  | none =>
    if session.registry.isSkipped file.name then some (none, session)
    else
      (session.cluster settings file).map (fun (clustering, grown) =>
        let done := grown.attributeClustering settings clustering
        (done.registry.get? file.name, done))

/-- Resolve one baseline file, if the index knows it and it is not settled. -/
def resolveBaselineFile (settings : Settings) (session : Session) (name : String) :
    Option Session :=
  if session.registry.isSettled name then some session
  else
    match settings.index.lookup name with
    | none => some session
    | some file => (session.resolveClosure settings file).map Prod.snd

def resolveBaseline (settings : Settings) (session : Session) : Option Session :=
  settings.baseline.toList.foldlM (resolveBaselineFile settings) session

/-- Resolve a file, baseline files first. The answer is the component in which the file
ended up, or nothing where its classification failed. -/
def resolve (settings : Settings) (file : File) (session : Session) :
    Option (Option Instance × Session) :=
  (session.resolveBaseline settings).bind (fun ready => ready.resolveClosure settings file)

/-- Resolve a file unless it is bound or settled. -/
def indexFile (settings : Settings) (session : Session) (file : File) : Option Session :=
  if session.registry.contains file.name || session.registry.isSettled file.name then
    some session
  else (session.resolve settings file).map Prod.snd

/-- The classes and styles among files. -/
def targetsAmong (files : List File) : List File :=
  files.filter (fun file => file.role.isComponent)

def report (files : Nat) (session : Session) : Report :=
  { files := files
    components := session.registry.instances.length
    probed := session.probed
    skipped := session.registry.skippedFiles }

/-- Resolve all classes and styles among the files, in order. -/
def index (settings : Settings) (files : List File) (session : Session) :
    Option (Report × Session) :=
  let targets := targetsAmong files
  (targets.foldlM (indexFile settings) session).map
    (fun done => (done.report targets.length, done))

/-- Every class and style that the name index knows, in index order. -/
def targets (settings : Settings) : List File :=
  settings.index.ofRoles [.documentClass, .style]

def indexAll (settings : Settings) (session : Session) : Option (Report × Session) :=
  session.index settings (targets settings)

/-- Extend registered components by curated symbols. -/
def applyOverrides (entries : List OverrideEntry) (session : Session) :
    List OverrideError × Session :=
  let (registry, errors) := session.registry.applyOverrides entries
  (errors, { session with registry := registry })

/-- The registered components followed by the kernel. -/
def exported (settings : Settings) (session : Session) : List Component :=
  session.registry.components ++ [Component.ofKernel settings.kernel]

end Session

end TexAtlas
