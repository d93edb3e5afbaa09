import SchemaConcord.Datum.Display
import SchemaConcord.Schema.Display
import SchemaConcord.Schema.Document

/-!
# Drifts and reports

A drift is one discrepancy between what is expected and what is there; at least one of the two sides is present.
A report holds the drifts of one detection run with the suggested remedies.
-/

namespace SchemaConcord

inductive DriftType where
  | missingTable | extraTable | missingColumn | extraColumn | columnTypeMismatch | constraintMismatch
  | indexMismatch | routeMismatch | formFieldMismatch
  deriving DecidableEq, Repr, Inhabited

inductive Severity where
  | critical | high | medium | low
  deriving DecidableEq, Repr, Inhabited

/-- What one side of a drift shows: a part of a schema, or any value; the null value stands for absence. -/
inductive Side where
  | value (v : Datum)
  | table (t : Table)
  | column (c : Column)
  | constraint (c : Constraint)
  | index (i : Index)
  | view (v : View)
  deriving DecidableEq, Repr, Inhabited

structure Drift where
  type : DriftType
  severity : Severity
  object : String
  expected : Side
  actual : Side
  message : String
  deriving DecidableEq, Repr, Inhabited

inductive SuggestionKind where
  | migration | schemaUpdate | codeChange
  deriving DecidableEq, Repr, Inhabited

structure Suggestion where
  kind : SuggestionKind
  object : String
  description : String
  sql : Option String
  code : Option String
  impact : List String
  deriving DecidableEq, Repr, Inhabited

structure Report where
  timestamp : Moment
  schemaVersion : String
  databaseVersion : String
  drifts : List Drift
  suggestions : List Suggestion
  deriving DecidableEq, Repr, Inhabited

namespace DriftType

def word : DriftType → String
  | .missingTable => "MISSING_TABLE"
  | .extraTable => "EXTRA_TABLE"
  | .missingColumn => "MISSING_COLUMN"
  | .extraColumn => "EXTRA_COLUMN"
  | .columnTypeMismatch => "COLUMN_TYPE_MISMATCH"
  | .constraintMismatch => "CONSTRAINT_MISMATCH"
  | .indexMismatch => "INDEX_MISMATCH"
  | .routeMismatch => "ROUTE_MISMATCH"
  | .formFieldMismatch => "FORM_FIELD_MISMATCH"

def all : List DriftType :=
  [.missingTable, .extraTable, .missingColumn, .extraColumn, .columnTypeMismatch, .constraintMismatch,
    .indexMismatch, .routeMismatch, .formFieldMismatch]

def isSchema : DriftType → Bool
  | .routeMismatch | .formFieldMismatch => false
  | _ => true

end DriftType

namespace Severity

def word : Severity → String
  | .critical => "critical"
  | .high => "high"
  | .medium => "medium"
  | .low => "low"

def all : List Severity := [.critical, .high, .medium, .low]

def isBlocking : Severity → Bool
  | .critical | .high => true
  | _ => false

end Severity

namespace SuggestionKind

def word : SuggestionKind → String
  | .migration => "migration"
  | .schemaUpdate => "schema_update"
  | .codeChange => "code_change"

def all : List SuggestionKind := [.migration, .schemaUpdate, .codeChange]

end SuggestionKind

namespace Side

def absent : Side := .value .null

def text (s : String) : Side := .value (.text s)

def isAbsent (s : Side) : Bool := s == absent

def toDatum : Side → Datum
  | .value v => v
  | .table t => t.toDatum
  | .column c => c.toDatum
  | .constraint c => c.toDatum
  | .index i => i.toDatum
  | .view v => v.toDatum

def display : Side → String
  | .value v => v.display
  | .table t => Shown.whole t.shownFields
  | .column c => Shown.whole c.shownFields
  | .constraint c => Shown.whole c.shownFields
  | .index i => Shown.whole i.shownFields
  | .view v => Shown.whole v.shownFields

end Side

namespace Report

def count (r : Report) (s : Severity) : Nat := r.drifts.countP (·.severity = s)

def hasBlocking (r : Report) : Bool := r.drifts.any (·.severity.isBlocking)

end Report

end SchemaConcord
