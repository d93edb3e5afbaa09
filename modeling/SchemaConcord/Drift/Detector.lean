import SchemaConcord.Drift.Compare
import SchemaConcord.Drift.DetectorRun
import SchemaConcord.Drift.Filter
import SchemaConcord.Drift.Findings
import SchemaConcord.Drift.Fingerprint
import SchemaConcord.Form.Project
import SchemaConcord.Route.Project

/-!
# The detector

`Detector.detect` compares the live schema with the baseline and with the routes and forms of the project, writes a
report of the drifts, and after that fixes what may be fixed and notifies. `Detector.saveBaseline` makes the live
schema the baseline. A run that fails before its report is written leaves the baseline and all reports as they were.
-/

namespace SchemaConcord

open Detecting Text

structure Detector where
  settings : DriftSettings
  baseline : BaselineFile
  archive : ReportArchive
  routes : Option RouteProject := none
  forms : Option FormProject := none
  webhook : Option String := none

def noVersion : String := "N/A"

def Snapshot.unrecordedDrift (baseline live : Snapshot) : Drift :=
  ⟨.constraintMismatch, .critical, wholeSchema, .text baseline.fingerprint, .text live.fingerprint,
    "Database schema changed without migration"⟩

/-- A drift that vanishes when the live schema becomes the baseline, and of little weight. -/
def Drift.isFixable (d : Drift) : Bool := d.severity = .low && d.suggest.kind = .schemaUpdate

namespace Detector

/-! ## Schemas -/

def analyze (v : Services σ) : Detecting σ DetectionFault Snapshot := do
  enter .analyzing
  note .analyze
  settle .analysis (← ask v.analyze)

def loadBaseline (d : Detector) (now : Moment) : Detecting σ DetectionFault (Option Snapshot) := do
  enter .diffing
  note .loadBaseline
  let found ← settle .baseline (← onFiles fun t => (t, d.baseline.load now t))
  if found.isNone then
    warn ["No baseline at " ++ d.baseline.path.text ++ "; run 'schema-integrity baseline' to create one"]
  return found

/-- Whether a completed migration is recorded after one version and up to another. An answer that cannot be had
means that there is none. -/
def hasMigration (d : Detector) (v : Services σ) (before after : String) :
    Detecting σ MigrationLog.CountFault Bool := do
  match v.history, MigrationLog.countSql d.settings.migrationTable with
  | some query, .ok sql =>
    let parameters := Datum.record [("from_version", .text before), ("to_version", .text after)]
    note (.askHistory sql parameters)
    match ← ask (query sql parameters) with
    | .ok rows => settle id (MigrationLog.tellsOfSome rows)
    | .error _ => return false
  | _, _ => return false

/-- The drift that a change is recorded nowhere, if that is so. Schemas of one fingerprint need no record. -/
def unrecordedChange (d : Detector) (v : Services σ) (baseline live : Snapshot) :
    Detecting σ DetectionFault (List Drift) := do
  if baseline.fingerprint = live.fingerprint then return []
  let recorded ← (d.hasMigration v baseline.version live.version).adapt DetectionFault.history
  return if recorded then [] else [baseline.unrecordedDrift live]

def schemaDrifts (d : Detector) (v : Services σ) (live : Snapshot) :
    Option Snapshot → Detecting σ DetectionFault (List Drift)
  | none => return []
  | some baseline => return baseline.compare live ++ (← d.unrecordedChange v baseline live)

/-! ## Routes and forms -/

/-- The drifts in the outcome of a check; a check that failed gives a warning and no drifts. -/
def checkedDrifts (subject : String) (drifts : α → List Drift) (o : Outcome α) : Detecting σ ε (List Drift) := do
  warn o.warnings
  match o.result with
  | .ok a => return drifts a
  | .error f =>
    warn [subject ++ " validation skipped: " ++ f.details]
    return []

def routeDrifts (d : Detector) (live : Snapshot) : Detecting σ ε (List Drift) :=
  match d.routes with
  | none => return []
  | some project =>
    if project.settings.enabled then do
      note .validateRoutes
      checkedDrifts "Route" RouteFindings.drifts (← onFiles (project.validate live))
    else return []

def formDrifts (d : Detector) (live : Snapshot) : Detecting σ ε (List Drift) :=
  match d.forms with
  | none => return []
  | some project =>
    if project.settings.enabled then do
      note .validateForms
      checkedDrifts "Form" (·.flatMap FormCheck.drifts) (← onFiles fun t => (t, project.validate live t))
    else return []

/-! ## Reports -/

def reportOf (now : Moment) (baseline : Option Snapshot) (live : Snapshot) (drifts : List Drift) : Report :=
  ⟨now, (baseline.map (·.version)).getD noVersion, live.version, drifts, drifts.map Drift.suggest⟩

def buildReport (d : Detector) (v : Services σ) (now : Moment) :
    Detecting σ DetectionFault (Report × Snapshot) := do
  let live ← analyze v
  let baseline ← d.loadBaseline now
  let ofSchema ← d.schemaDrifts v live baseline
  enter .validating
  let ofRoutes ← d.routeDrifts live
  let ofForms ← d.formDrifts live
  return (reportOf now baseline live (d.settings.keep (ofSchema ++ ofRoutes ++ ofForms)), live)

def writeReport (d : Detector) (r : Report) : Detecting σ DetectionFault Path := do
  enter .reporting
  note .writeReport
  settle .report (← onFiles (d.archive.write r))

/-! ## After the report -/

def replaceBaseline (d : Detector) (live : Snapshot) : Detecting σ SaveFault Unit := do
  note .saveBaseline
  settle id (← onFiles (d.baseline.save live))

/-- Makes the live schema the baseline when that settles a drift of little weight; gives the number of those. -/
def fix (d : Detector) (live : Snapshot) (r : Report) : Detecting σ DetectorFault Nat := do
  let fixable := r.drifts.filter Drift.isFixable
  if fixable.isEmpty then return 0
  match ← attempt (do enter .fixing; d.replaceBaseline live) with
  | .error (.file f) =>
    warn ["Auto-fix could not save the baseline: " ++ f.message]
    return 0
  | .error f => throw (.save f)
  | .ok () =>
    fixable.forM fun x => emit (.driftFixed x)
    emit (.baselineSaved d.baseline.path live.version)
    return fixable.length

def tell (v : Services σ) (url : String) (r : Report) : Detecting σ DetectorFault Unit := do
  let a ← settle (.webhook ∘ .address) (WebAddress.parse url)
  note (.post r)
  let delivery ← settle .webhook (Delivery.ofReply a (← ask (v.post a r.payload)))
  match delivery.error? with
  | none => return
  | some error =>
    warn ["Drift notification failed: " ++ error]
    emit (.notificationFailed url error)

/-! ## Calls -/

def disabledOutcome (now : Moment) : Outcome Report :=
  .ok ⟨now, noVersion, noVersion, [], []⟩ ["Drift detection is disabled"]

def detect (d : Detector) (v : Services σ) (now : Moment) : Detecting σ DetectorFault (Outcome Report) := do
  if !d.settings.enabled then return disabledOutcome now
  modify fun r => { r with warnings := [] }
  match ← attempt (do
      let (r, live) ← d.buildReport v now
      return (r, live, ← d.writeReport r)) with
  | .error f =>
    return .fail ⟨.detectionFailed, "Failed to detect schema drift", f.details⟩ (← get).warnings
  | .ok (r, live, p) =>
    if !r.drifts.isEmpty then emit (.driftDetected r p)
    let fixed ← if d.settings.autoFix then d.fix live r else pure 0
    if let some url := d.webhook then
      if !r.drifts.isEmpty then tell v url r
    return .ok r (← get).warnings [("report_path", .text p.text), ("auto_fixed", .ofNat fixed)]

def saveBaseline (d : Detector) (v : Services σ) : Detecting σ DetectorFault (Outcome Snapshot) := do
  match ← attempt (do
      let live ← analyze v
      (d.replaceBaseline live).adapt DetectionFault.save
      return live) with
  | .error f => return .fail ⟨.detectionFailed, "Failed to save baseline", f.details⟩
  | .ok live =>
    emit (.baselineSaved d.baseline.path live.version)
    return .ok live [] [("baseline_path", .text d.baseline.path.text)]

end Detector

end SchemaConcord
