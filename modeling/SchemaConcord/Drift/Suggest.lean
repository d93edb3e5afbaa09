import SchemaConcord.Drift.Basic
import SchemaConcord.Schema.Sql

/-!
# Suggested remedies

The baseline is the source of truth, so a migration brings the baseline's shape back into the live database. A
change that the baseline can simply take over is a schema update; findings on routes and forms, and a change
without a migration, are changes of code.
-/

namespace SchemaConcord

open Text

/-- The object under which a change without a recorded migration is reported. -/
def wholeSchema : String := "database_schema"

namespace Drift

def splitObject (object : String) : String × String :=
  match cutAt? ['.'] object.toList with
  | some (a, b) => (String.ofList a, String.ofList b)
  | none => (object, "")

def accept (d : Drift) (description : String) : Suggestion :=
  ⟨.schemaUpdate, d.object, description, none, none, ["Baseline will be updated to match the database"]⟩

def migrate (d : Drift) (description sql : String) (impact : List String) : Suggestion :=
  ⟨.migration, d.object, description, some sql, none, impact⟩

def missingTableRemedy (d : Drift) : Suggestion :=
  match d.expected with
  | .view v =>
    if v.definition.isEmpty then d.accept ("Remove view '" ++ v.name ++ "' from the baseline")
    else d.migrate ("Recreate view '" ++ v.name ++ "'")
      ("CREATE VIEW " ++ Sql.name v.name ++ " AS " ++ v.definition ++ ";") ["Queries against the view will work again"]
  | .table t =>
    d.migrate ("Create table '" ++ d.object ++ "' from the baseline definition") t.createSql
      ["Routes and forms using '" ++ d.object ++ "' will work again",
        "Table is created empty; data must be restored separately"]
  | _ => d.accept ("Remove table '" ++ d.object ++ "' from the baseline")

def missingColumnRemedy (d : Drift) : Suggestion :=
  let (table, column) := splitObject d.object
  match d.expected with
  | .column c =>
    d.migrate ("Add column '" ++ column ++ "' to '" ++ table ++ "'")
      ("ALTER TABLE " ++ Sql.name table ++ " ADD COLUMN " ++ c.sqlDefinition ++ ";")
      (("Queries selecting '" ++ column ++ "' will work again") ::
        (if !c.nullable && c.default.isNone then ["Existing rows need a value; add a DEFAULT or backfill first"]
          else []))
  | _ => d.accept ("Remove column '" ++ d.object ++ "' from the baseline")

def typeRemedy (d : Drift) : Suggestion :=
  let (table, column) := splitObject d.object
  d.migrate ("Restore type of '" ++ d.object ++ "' to " ++ d.expected.display)
    ("ALTER TABLE " ++ Sql.name table ++ " ALTER COLUMN " ++ Sql.name column ++ " TYPE " ++
      uppercase d.expected.display ++ ";")
    ["Existing values must convert to the restored type",
      "Application code written against the new type may break"]

def nullRemedy (d : Drift) (nullable : Bool) : Suggestion :=
  let (table, column) := splitObject d.object
  d.migrate ("Restore nullability of '" ++ d.object ++ "'")
    ("ALTER TABLE " ++ Sql.name table ++ " ALTER COLUMN " ++ Sql.name column ++ " " ++
      (if nullable then "DROP NOT NULL" else "SET NOT NULL") ++ ";")
    (if nullable then ["Column will accept NULL values again"]
      else ["Inserts omitting the column will be rejected", "Existing NULL values must be backfilled first"])

/-- Restores a constraint that is gone or, when the live one differs, drops that first. -/
def constraintRemedy (d : Drift) (c : Constraint) : Suggestion :=
  let (table, name) := splitObject d.object
  let sql := (c.addSql? table).map fun add => match d.actual with
    | .constraint _ => "ALTER TABLE " ++ Sql.name table ++ " DROP CONSTRAINT " ++ Sql.name name ++ ";\n" ++ add
    | _ => add
  match sql with
  | none => d.accept ("Record constraint '" ++ d.object ++ "' as it exists in the database")
  | some sql =>
    d.migrate ("Restore constraint '" ++ d.object ++ "'") sql
      ["Existing rows that violate the constraint will block the migration"]

def recordView (d : Drift) : Suggestion :=
  d.accept ("Record the new definition of view '" ++ d.object ++ "' in the baseline")

def constraintMismatchRemedy (d : Drift) : Suggestion :=
  match d.expected, d.actual with
  | .value (.flag nullable), _ => d.nullRemedy nullable
  | .view _, _ => d.recordView
  | _, .view _ => d.recordView
  | .constraint c, _ => d.constraintRemedy c
  | _, .constraint _ => d.accept ("Add constraint '" ++ d.object ++ "' to the baseline")
  | _, _ =>
    if d.object = wholeSchema then
      ⟨.codeChange, d.object, "Record the schema change as a migration, then save a new baseline", none, none,
        ["Untracked changes cannot be reproduced in other environments"]⟩
    else d.accept ("Record the new default of '" ++ d.object ++ "' in the baseline")

def indexRemedy (d : Drift) : Suggestion :=
  match d.expected with
  | .index i =>
    if d.actual.isAbsent then
      d.migrate ("Recreate index '" ++ i.name ++ "'") i.createSql
        ["Queries filtering on the indexed columns will speed up again"]
    else d.accept ("Record index '" ++ d.object ++ "' in the baseline")
  | _ => d.accept ("Record index '" ++ d.object ++ "' in the baseline")

def suggest (d : Drift) : Suggestion :=
  match d.type with
  | .missingTable => d.missingTableRemedy
  | .extraTable =>
    let kind := match d.actual with
      | .view _ => "view"
      | _ => "table"
    d.accept ("Add " ++ kind ++ " '" ++ d.object ++ "' to the baseline")
  | .missingColumn => d.missingColumnRemedy
  | .extraColumn => d.accept ("Add column '" ++ d.object ++ "' to the baseline")
  | .columnTypeMismatch => d.typeRemedy
  | .constraintMismatch => d.constraintMismatchRemedy
  | .indexMismatch => d.indexRemedy
  | .routeMismatch | .formFieldMismatch =>
    ⟨.codeChange, d.object, d.message, none, none, ["Application code and database schema will agree"]⟩

end Drift

end SchemaConcord
