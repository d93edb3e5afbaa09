import SchemaConcord.Datum.Basic

/-!
# Outcomes

What an operation reports to its caller: its value or a failure with a stable code, the warnings that arose on the
way, and facts about the run.
-/

namespace SchemaConcord

inductive ErrorCode where
  | connectionFailed | analysisFailed | routeValidationFailed | formScanFailed | detectionFailed
  deriving DecidableEq, Repr

def ErrorCode.word : ErrorCode → String
  | .connectionFailed => "CONNECTION_FAILED"
  | .analysisFailed => "SCHEMA_ANALYSIS_FAILED"
  | .routeValidationFailed => "ROUTE_VALIDATION_FAILED"
  | .formScanFailed => "FORM_SCAN_FAILED"
  | .detectionFailed => "DRIFT_DETECTION_FAILED"

/-- Why an operation failed: a code, a message for people, and what lies behind it. -/
structure Failure where
  code : ErrorCode
  message : String
  details : String
  deriving DecidableEq, Repr

def Failure.toDatum (f : Failure) : Datum :=
  .record [("code", .text f.code.word), ("message", .text f.message), ("details", .text f.details)]

structure Outcome (α : Type) where
  result : Except Failure α
  warnings : List String
  metadata : List (String × Datum)

namespace Outcome

def ok (a : α) (warnings : List String := []) (metadata : List (String × Datum) := []) : Outcome α :=
  ⟨.ok a, warnings, metadata⟩

def fail (f : Failure) (warnings : List String := []) : Outcome α := ⟨.error f, warnings, []⟩

def isOk (o : Outcome α) : Bool :=
  match o.result with
  | .ok _ => true
  | .error _ => false

def toDatum (f : α → Datum) (o : Outcome α) : Datum :=
  .record [("success", .flag o.isOk),
    ("data", match o.result with
      | .ok a => f a
      | .error _ => .null),
    ("error", match o.result with
      | .ok _ => .null
      | .error e => e.toDatum),
    ("warnings", Datum.texts o.warnings), ("metadata", .record o.metadata)]

end Outcome

end SchemaConcord
