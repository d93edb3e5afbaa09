import SchemaConcord.Command.Arguments
import SchemaConcord.Command.Logging
import SchemaConcord.Command.Printed
import SchemaConcord.Drift.Detector
import SchemaConcord.Pool.Analysis
import SchemaConcord.Settings.Load

/-!
# Commands

A run of the program loads the configuration, opens a connection for the command, closes it however the command ends,
and prints what was found. The exit code is 0 when everything is as it should be, 1 when it is not or cannot be told,
and 2 when the arguments are refused.
-/

namespace SchemaConcord

/-- The outside of the program: a database, a transport and the time. -/
structure Surroundings (σ : Type) where
  database : Backend σ
  post : WebAddress → Datum → PostReply
  now : Moment

inductive CommandFault where
  | configuration (fault : ConfigurationFault)
  | detector (fault : DetectorFault)
  deriving DecidableEq, Repr

/-- What a run of the program works on: files, log levels, what was printed and posted so far, and connections. -/
structure CommandRun (σ : Type) where
  tree : FileTree
  levels : LogLevels := {}
  printed : List Printed := []
  posted : List Report := []
  manager : Manager σ := { settings := {} }

/-- A part of a command, which may end with a fault and leaves what it did in place. -/
abbrev Commanding (σ α : Type) := ExceptT CommandFault (StateM (CommandRun σ)) α

namespace Configuration

def analyzer (c : Configuration) : Analyzer :=
  { excludedTables := c.drift.migrationTable :: c.drift.ignoreTables }

def routeProject (c : Configuration) : RouteProject := ⟨c.validation.routes, c.projectRoot⟩

def formProject (c : Configuration) : FormProject := ⟨c.validation.forms, c.projectRoot⟩

def detector (c : Configuration) (withProject : Bool) : Detector :=
  { settings := c.drift
    baseline := ⟨c.resolve (.parse c.drift.baselinePath)⟩
    archive := ⟨c.resolve (.parse c.drift.reportDirectory)⟩
    routes := if withProject then some c.routeProject else none
    forms := if withProject then some c.formProject else none
    webhook := DatabaseSettings.filled c.drift.webhook }

end Configuration

def ConfigurationFault.isReported : ConfigurationFault → Bool
  | .missing _ | .syntaxError _ | .model .. | .file (.encoding _) => true
  | .file (.file f) => f.obstacle = .missing
  | .rootKind _ => false

namespace Commanding

def print (l : List Printed) : Commanding σ Unit := modify fun r => { r with printed := r.printed ++ l }

def logAt (level : String) : Commanding σ Unit := modify fun r => { r with levels := .named level }

def onManager (work : Manager σ → Manager σ × α) : Commanding σ α := modifyGet fun r =>
  let (manager, a) := work r.manager
  (a, { r with manager })

def onFiles (work : FileTree → FileTree × α) : Commanding σ α := modifyGet fun r =>
  let (tree, a) := work r.tree
  (a, { r with tree })

def runDetector (part : Detecting (Manager σ) DetectorFault α) : Commanding σ α := fun r =>
  let (result, d) := part { outside := r.manager, tree := r.tree }
  let posted := d.trace.filterMap fun
    | (_, .post report) => some report
    | _ => none
  (result.mapError .detector, { r with manager := d.outside, tree := d.tree, posted := r.posted ++ posted })

/-! ## Configuration and connection -/

def configuration (i : Invocation) : Commanding σ (Option Configuration) := do
  match Configuration.load (i.config.map .parse) (← get).tree with
  | .ok c =>
    if !i.verbose then logAt c.logging.level
    return some c
  | .error f =>
    if f.isReported then
      print [.error f.message]
      return none
    else throw (.configuration f)

def connect (e : Surroundings σ) (c : Configuration) : Commanding σ (Option Nat) := do
  let o ← onManager fun _ => Manager.connect { settings := c.database } e.database
  match o.result with
  | .ok i => return some i
  | .error f =>
    print (.failure f.message :: Printed.details f.details)
    return none

/-- Runs a part on a connection, which is closed afterwards however the part ends. -/
def withConnection (e : Surroundings σ) (c : Configuration) (part : Nat → Commanding σ α) :
    Commanding σ (Option α) := do
  match ← connect e c with
  | none => return none
  | some i => fun r =>
    let (result, r) := part i r
    (result.map some, { r with manager := r.manager.disconnect e.database })

def liveSchema (e : Surroundings σ) (c : Configuration) (i : Nat) : Commanding σ (Option Snapshot) := do
  match ← onManager fun m => m.analyze e.database i c.analyzer e.now with
  | .ok s => return some s
  | .error .timeout =>
    print [.failure (ErrorCode.analysisFailed.word ++ ": Schema analysis timed out after " ++ c.drift.timeout.text ++
      "s")]
    return none
  | .error (.failed f) =>
    print (.failure (f.code.word ++ ": " ++ f.message) :: Printed.details f.details)
    return none
  | .error (.model f) =>
    print [.failure f.message]
    return none

def services (e : Surroundings σ) (c : Configuration) (i : Nat) : Services (Manager σ) :=
  { analyze := fun m => m.analyze e.database i c.analyzer e.now
    history := some fun sql parameters m => m.query e.database i sql parameters
    post := fun a body m => (m, e.post a body) }

/-- Prints the warnings of an outcome and then, if it is no failure, what comes of its value; the exit code. -/
def conclude (o : Outcome α) (good : α → List Printed × Bool) : Commanding σ Nat := do
  print (Printed.warnings o.warnings)
  match o.result with
  | .error f =>
    print [.failed f]
    return 1
  | .ok a =>
    let (printed, isGood) := good a
    print printed
    return if isGood then 0 else 1

/-! ## The commands -/

def detect (e : Surroundings σ) (c : Configuration) : Commanding σ Nat := do
  let found ← withConnection e c fun i => runDetector ((c.detector true).detect (services e c i) e.now)
  match found with
  | none => return 1
  | some o => conclude o fun r =>
    let file := ((o.metadata.lookup "report_path").bind Datum.textOf?).getD ""
    let fixed := match o.metadata.lookup "auto_fixed" with
      | some (.int n) => n
      | _ => 0
    (r.printed file fixed, !r.hasBlocking)

def baseline (e : Surroundings σ) (c : Configuration) : Commanding σ Nat := do
  let found ← withConnection e c fun i => runDetector ((c.detector false).saveBaseline (services e c i))
  match found with
  | none => return 1
  | some o => conclude o fun s =>
    ([s.printedBaseline (((o.metadata.lookup "baseline_path").bind Datum.textOf?).getD "")], true)

def checked (e : Surroundings σ) (c : Configuration) (check : Snapshot → FileTree → FileTree × Outcome α) :
    Commanding σ (Option (Outcome α)) := do
  let found ← withConnection e c fun i => do
    match ← liveSchema e c i with
    | none => return none
    | some s => return some (← onFiles (check s))
  return found.join

def routes (e : Surroundings σ) (c : Configuration) (strict : Bool) : Commanding σ Nat := do
  let settings := { c.validation.routes with strict := strict || c.validation.routes.strict }
  match ← checked e c (RouteProject.validate ⟨settings, c.projectRoot⟩) with
  | none => return 1
  | some o => conclude o fun f => (f.printed, f.isValid)

def forms (e : Surroundings σ) (c : Configuration) (suggest : Bool) : Commanding σ Nat := do
  match ← checked e c fun s t => (t, c.formProject.validate s t) with
  | none => return 1
  | some o => conclude o fun l =>
    let statements := if suggest then l.flatMap FormCheck.migration else []
    (.table (FormCheck.tableOf l) :: Printed.migrations statements,
      l.all fun check => check.table.isNone || check.isValid)

def health (e : Surroundings σ) (c : Configuration) : Commanding σ Nat := do
  let found ← withConnection e c fun i => do
    let healthy ← onManager fun m => m.isHealthy e.database i
    return (healthy, ((← get).manager.count? i).getD {})
  match found with
  | none => return 1
  | some (healthy, count) =>
    print (count.printedHealth c.database.engine healthy)
    return if healthy then 0 else 1

def command (e : Surroundings σ) (i : Invocation) : Commanding σ Nat := do
  logAt (if i.verbose then "DEBUG" else "INFO")
  match ← configuration i with
  | none => return 1
  | some c => match i.command with
    | .detect => detect e c
    | .baseline => baseline e c
    | .routes => routes e c i.strict
    | .forms => forms e c i.suggest
    | .health => health e c

end Commanding

/-- Runs the program with arguments; the result is the exit code. -/
def runProgram (e : Surroundings σ) (arguments : List String) : Commanding σ Nat :=
  match readArguments arguments with
  | .help => return 0
  | .refused => return 2
  | .invoke i => Commanding.command e i

end SchemaConcord
