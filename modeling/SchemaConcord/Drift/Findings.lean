import SchemaConcord.Drift.Basic
import SchemaConcord.Form.Basic
import SchemaConcord.Route.Validate

/-!
# Drifts of routes and forms

What was found about routes and forms, told as drifts. Forms without a table tell nothing.
-/

namespace SchemaConcord

open Text

def InvalidRoute.drift (i : InvalidRoute) : Drift :=
  ⟨.routeMismatch, .high, i.route.key, .text "valid table and column references", .text (joinWith "; " i.reasons),
    "Route " ++ i.route.key ++ " references missing database objects"⟩

def Route.missingDrift (r : Route) : Drift :=
  ⟨.routeMismatch, .medium, r.key, .text r.key, .absent, "Missing CRUD route " ++ r.key⟩

def RouteFindings.drifts (f : RouteFindings) : List Drift :=
  f.invalid.map InvalidRoute.drift ++ f.missing.map Route.missingDrift

namespace FormCheck

def partDrift (c : FormCheck) (severity : Severity) (part : String) (expected actual : Side) (message : String) :
    Drift :=
  ⟨.formFieldMismatch, severity, c.form.name ++ "." ++ part, expected, actual, message⟩

def missingDrift (c : FormCheck) (table column : String) : Drift :=
  c.partDrift .high column (.text column) .absent
    ("Form '" ++ c.form.name ++ "' has no field for required column '" ++ table ++ "." ++ column ++ "'")

def kindDrift (c : FormCheck) (table : String) (m : KindMismatch) : Drift :=
  c.partDrift .medium m.field (.text m.expected.word) (.text m.actual.word)
    ("Form field '" ++ m.field ++ "' is " ++ m.actual.word ++ " but '" ++ table ++ "." ++ m.column ++ "' expects " ++
      m.expected.word)

def ruleDrift (c : FormCheck) (m : RuleMismatch) : Drift :=
  c.partDrift .medium m.field (.text m.expected) (.text m.actual) m.message

def extraDrift (c : FormCheck) (table field : String) : Drift :=
  c.partDrift .low field .absent (.text field)
    ("Form field '" ++ field ++ "' has no column in '" ++ table ++ "'")

def drifts (c : FormCheck) : List Drift :=
  match c.table with
  | none => []
  | some table =>
    c.missingColumns.map (c.missingDrift table) ++ c.kindMismatches.map (c.kindDrift table) ++
      c.ruleMismatches.map c.ruleDrift ++ c.extraFields.map (c.extraDrift table)

end FormCheck

end SchemaConcord
