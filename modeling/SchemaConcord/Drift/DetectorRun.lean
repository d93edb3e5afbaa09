import SchemaConcord.Database.Analysis
import SchemaConcord.Drift.Archive
import SchemaConcord.Drift.Baseline
import SchemaConcord.Drift.MigrationLog
import SchemaConcord.Outcome
import SchemaConcord.Pool.Backend
import SchemaConcord.Webhook.Delivery

/-!
# Runs of the detector

A run of the detector reads and writes files, asks services outside, and passes through states. Whatever it does it
notes together with the state it is in, so that a run leaves a full trace behind.
-/

namespace SchemaConcord

inductive DetectorState where
  | idle | analyzing | diffing | validating | reporting | fixing
  deriving DecidableEq, Repr

def DetectorState.word : DetectorState → String
  | .idle => "idle"
  | .analyzing => "analyzing_schema"
  | .diffing => "diffing"
  | .validating => "validating_routes_forms"
  | .reporting => "reporting"
  | .fixing => "auto_fixing"

inductive DetectorEvent where
  | driftDetected (report : Report) (p : Path)
  | driftFixed (d : Drift)
  | baselineSaved (p : Path) (version : String)
  | notificationFailed (url error : String)
  deriving DecidableEq, Repr

namespace DetectorEvent

def name : DetectorEvent → String
  | .driftDetected .. => "drift_detected"
  | .driftFixed _ => "drift_fixed"
  | .baselineSaved .. => "baseline_saved"
  | .notificationFailed .. => "notification_failed"

def payload : DetectorEvent → Datum
  | .driftDetected r p => .record [("summary", r.summary), ("report_path", .text p.text)]
  | .driftFixed d => .record [("object", .text d.object), ("type", .text d.type.word)]
  | .baselineSaved p v => .record [("path", .text p.text), ("version", .text v)]
  | .notificationFailed u e => .record [("url", .text u), ("error", .text e)]

def names : List String := ["drift_detected", "drift_fixed", "baseline_saved", "notification_failed"]

end DetectorEvent

inductive DetectorAction where
  | analyze
  | loadBaseline
  | askHistory (sql : String) (parameters : Datum)
  | validateRoutes
  | validateForms
  | writeReport
  | saveBaseline
  | emit (e : DetectorEvent)
  | post (r : Report)
  deriving DecidableEq, Repr

inductive DetectionFault where
  | analysis (fault : AnalysisFault)
  | baseline (fault : DocumentFault)
  | history (fault : MigrationLog.CountFault)
  | report (fault : FileFault)
  | save (fault : SaveFault)
  deriving DecidableEq, Repr

def DetectionFault.details : DetectionFault → String
  | .analysis f => if f.message.isEmpty then "TimeoutError" else f.message
  | .baseline f => f.message
  | .history f => f.message
  | .report f => f.message
  | .save f => f.message

inductive DetectorFault where
  | save (fault : SaveFault)
  | webhook (fault : WebhookFault)
  deriving DecidableEq, Repr

/-- The services that a detector asks, each with the state `σ` outside before and after. -/
structure Services (σ : Type) where
  analyze : σ → σ × Except AnalysisFault Snapshot
  /-- Asks the database that keeps the migration log, if there is one. -/
  history : Option (String → Datum → σ → σ × Except ConnectionFault (List Row))
  post : WebAddress → Datum → σ → σ × PostReply

structure DetectorRun (σ : Type) where
  outside : σ
  tree : FileTree
  state : DetectorState := .idle
  trace : List (DetectorState × DetectorAction) := []
  /-- The warnings of the call that is going on. -/
  warnings : List String := []

/-- A part of a run, which may end with a fault and leaves what it did in place. -/
abbrev Detecting (σ ε α : Type) := ExceptT ε (StateM (DetectorRun σ)) α

namespace Detecting

def enter (s : DetectorState) : Detecting σ ε Unit := modify fun r => { r with state := s }

def note (a : DetectorAction) : Detecting σ ε Unit := modify fun r => { r with trace := r.trace ++ [(r.state, a)] }

def emit (e : DetectorEvent) : Detecting σ ε Unit := note (.emit e)

def warn (warnings : List String) : Detecting σ ε Unit := modify fun r => { r with warnings := r.warnings ++ warnings }

def ask (service : σ → σ × α) : Detecting σ ε α := modifyGet fun r =>
  let (outside, a) := service r.outside
  (a, { r with outside })

def onFiles (work : FileTree → FileTree × α) : Detecting σ ε α := modifyGet fun r =>
  let (tree, a) := work r.tree
  (a, { r with tree })

def settle (wrap : ε → ε') (result : Except ε α) : Detecting σ ε' α := ExceptT.mk (pure (result.mapError wrap))

/-- Runs a part to its end, good or bad; afterwards the detector is idle. -/
def attempt (part : Detecting σ ε α) : Detecting σ ε' (Except ε α) := fun r =>
  let (result, r) := part r
  (.ok result, { r with state := .idle })

end Detecting

end SchemaConcord
