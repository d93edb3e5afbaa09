import SchemaConcord.Files.Discovery
import SchemaConcord.Outcome
import SchemaConcord.Route.Extract
import SchemaConcord.Route.Stub
import SchemaConcord.Route.Validate
import SchemaConcord.Settings.Basic

/-!
# Routes of a project

The routes in the handler sources of a project tree, checked against a schema. In strict mode a stub is written for
every table that lacks an expected route, unless there is a file in its place; no other file is touched.
-/

namespace SchemaConcord

inductive RouteFault where
  | pattern (fault : PatternFault)
  | file (fault : FileFault)
  deriving DecidableEq, Repr

def RouteFault.message : RouteFault → String
  | .pattern f => f.message
  | .file f => f.message

def Table.stubPath (t : Table) (directory : Path) : Path := directory.join (.parse (t.resourceName ++ ".py"))

namespace FileTree

/-- Writes the stub for a table unless there is something in its place, and says whether it did. -/
def writeStub (tree : FileTree) (directory : Path) (t : Table) : FileTree × Except FileFault (Option Path) :=
  let p := t.stubPath directory
  match tree.makeDirectories p.parent with
  | .error f => (tree, .error f)
  | .ok made => match made.create p (.text t.routeStub) with
    | .ok written => (written, .ok (some p))
    | .error f => (made, if f.obstacle = .present then .ok none else .error f)

def writeStubs (directory : Path) : List Table → FileTree → FileTree × Except FileFault (List Path)
  | [], tree => (tree, .ok [])
  | t :: rest, tree =>
    match tree.writeStub directory t with
    | (tree, .error f) => (tree, .error f)
    | (tree, .ok written) =>
      let (tree, more) := writeStubs directory rest tree
      (tree, more.map (written.toList ++ ·))

end FileTree

def Snapshot.tablesOf (s : Snapshot) (expected : List Route) : List Table :=
  (expected.filterMap fun r => r.operations.head?.map (·.table)).eraseDups.filterMap s.table?

/-- What is checked where: settings, and the root of the project. -/
structure RouteProject where
  settings : RouteSettings
  root : Path
  deriving Repr

namespace RouteProject

def readFile (project : RouteProject) (tree : FileTree) (p : Path) : FileReading RouteFault Route :=
  tree.readWith (fun s => match RouteSource.extract s (project.root.shownFrom p) with
    | .ok routes => .items routes
    | .error .malformed => .skipped .malformed
    | .error .nullCharacter => .skipped .value) p

/-- The routes of a project, one for each method and path, and the warnings about sources passed over. -/
def routes (project : RouteProject) (tree : FileTree) : Except RouteFault (List Route × List String) := do
  let files ← (tree.discover project.root project.settings.patterns project.settings.directories [".py"]).mapError
    RouteFault.pattern
  let (found, warnings) ← scanFiles (project.readFile tree) files
  return (lastOfEach Route.key found, warnings)

def findings (project : RouteProject) (s : Snapshot) (tree : FileTree) : Except RouteFault RouteFindings := do
  let (found, warnings) ← project.routes tree
  let findings := s.checkRoutes found
  return { findings with warnings := warnings ++ findings.warnings }

def generate (project : RouteProject) (s : Snapshot) (f : RouteFindings) (tree : FileTree) :
    FileTree × Except RouteFault RouteFindings :=
  if project.settings.strict then
    let directory := project.root.join (.parse project.settings.outputDirectory)
    let (tree, written) := FileTree.writeStubs directory (s.tablesOf f.missing) tree
    (tree, (written.mapError RouteFault.file).map fun paths => { f with generatedStubs := paths.map Path.text })
  else (tree, .ok f)

def validate (project : RouteProject) (s : Snapshot) (tree : FileTree) : FileTree × Outcome RouteFindings :=
  let (tree, result) := match project.findings s tree with
    | .error f => (tree, Except.error f)
    | .ok findings => project.generate s findings tree
  (tree, match result with
    | .ok f => .ok f f.warnings
    | .error f => .fail ⟨.routeValidationFailed, "Failed to validate routes", f.message⟩)

end RouteProject

end SchemaConcord
