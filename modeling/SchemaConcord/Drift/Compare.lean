import SchemaConcord.Drift.Basic
import SchemaConcord.Text.Edit

/-!
# Comparing schemas

`Snapshot.compare` lists the drifts of a live schema against a baseline: tables with their columns and constraints,
then indexes, then views, the last two only when both schemas include them. Losing something weighs more than
gaining something, and tightening a column more than loosening it. Where a name occurs more than once in a list,
its last entry counts.
-/

namespace SchemaConcord

open Text

def lastNamed? (name : α → String) (l : List α) (n : String) : Option α := l.reverse.find? (name · = n)

def sortedNames (name : α → String) (l : List α) : List String := sortTexts (l.map name).eraseDups

/-- Compares two lists by name: entries of the first only, then entries of the second only, then entries of both,
each group in the order of names. -/
def compareNamed (name : α → String) (expected actual : List α) (missing extra : String → α → Drift)
    (shared : String → α → α → List Drift) : List Drift :=
  let before := sortedNames name expected
  let after := sortedNames name actual
  (before.filter (!after.contains ·)).filterMap (fun n => (lastNamed? name expected n).map (missing n)) ++
    (after.filter (!before.contains ·)).filterMap (fun n => (lastNamed? name actual n).map (extra n)) ++
    (before.filter after.contains).flatMap fun n =>
      match lastNamed? name expected n, lastNamed? name actual n with
      | some a, some b => shared n a b
      | _, _ => []

def nullWord (nullable : Bool) : String := if nullable then "NULL" else "NOT NULL"

def optionText (s : Option String) : String := s.getD "None"

/-! ## Columns -/

namespace Column

def typeDrift (object : String) (a b : Column) : List Drift :=
  if a.type = b.type then [] else
    [⟨.columnTypeMismatch, .high, object, .text a.type, .text b.type,
      "Column '" ++ object ++ "' type changed from " ++ a.type ++ " to " ++ b.type⟩]

def nullDrift (object : String) (a b : Column) : List Drift :=
  if a.nullable = b.nullable then [] else
    [⟨.constraintMismatch, if b.nullable then .medium else .high, object, .value (.flag a.nullable),
      .value (.flag b.nullable),
      "Column '" ++ object ++ "' changed from " ++ nullWord a.nullable ++ " to " ++ nullWord b.nullable⟩]

def defaultDrift (object : String) (a b : Column) : List Drift :=
  if a.default = b.default then [] else
    [⟨.constraintMismatch, .low, object, .value (Datum.ofOption .text a.default),
      .value (Datum.ofOption .text b.default),
      "Column '" ++ object ++ "' default changed from " ++ optionText a.default ++ " to " ++ optionText b.default⟩]

def compare (object : String) (a b : Column) : List Drift :=
  typeDrift object a b ++ nullDrift object a b ++ defaultDrift object a b

def missingDrift (object : String) (c : Column) : Drift :=
  ⟨.missingColumn, .high, object, .column c, .absent, "Column '" ++ object ++ "' is missing from the database"⟩

def extraDrift (object : String) (c : Column) : Drift :=
  ⟨.extraColumn, .medium, object, .absent, .column c,
    "Column '" ++ object ++ "' exists in the database but not in the baseline"⟩

end Column

/-! ## Tables -/

namespace Table

/-- Columns in the order of the baseline, then the columns that only the live table has. -/
def compareColumns (expected actual : Table) : List Drift :=
  expected.columns.flatMap (fun c =>
    let object := expected.name ++ "." ++ c.name
    match lastNamed? Column.name actual.columns c.name with
    | none => [c.missingDrift object]
    | some live => Column.compare object c live) ++
  (actual.columns.filter fun c => !expected.columnNames.contains c.name).map fun c =>
    c.extraDrift (actual.name ++ "." ++ c.name)

def compareConstraints (expected actual : Table) : List Drift :=
  compareNamed Constraint.name expected.constraints actual.constraints
    (fun n c =>
      let object := expected.name ++ "." ++ n
      ⟨.constraintMismatch, .high, object, .constraint c, .absent, "Constraint '" ++ object ++ "' was removed"⟩)
    (fun n c =>
      let object := actual.name ++ "." ++ n
      ⟨.constraintMismatch, .medium, object, .absent, .constraint c, "Constraint '" ++ object ++ "' was added"⟩)
    (fun n a b =>
      let object := expected.name ++ "." ++ n
      if a.kind = b.kind ∧ a.columns = b.columns ∧ a.definition = b.definition then [] else
        [⟨.constraintMismatch, .medium, object, .constraint a, .constraint b,
          "Constraint '" ++ object ++ "' definition changed"⟩])

def compare (expected actual : Table) : List Drift :=
  compareColumns expected actual ++ compareConstraints expected actual

end Table

/-! ## Schemas -/

namespace Snapshot

def compareTables (expected actual : Snapshot) : List Drift :=
  compareNamed Table.name expected.tables actual.tables
    (fun n t => ⟨.missingTable, .high, n, .table t, .absent, "Table '" ++ n ++ "' is missing from the database"⟩)
    (fun n t => ⟨.extraTable, .medium, n, .absent, .table t,
      "Table '" ++ n ++ "' exists in the database but not in the baseline"⟩)
    (fun _ a b => Table.compare a b)

/-- Indexes of tables that both schemas have; those of other tables go with their table. -/
def compareIndexes (tables : List String) (expected actual : List Index) : List Drift :=
  compareNamed Index.key (expected.filter (tables.contains ·.table)) (actual.filter (tables.contains ·.table))
    (fun n i => ⟨.indexMismatch, .medium, n, .index i, .absent, "Index '" ++ n ++ "' is missing from the database"⟩)
    (fun n i => ⟨.indexMismatch, .low, n, .absent, .index i,
      "Index '" ++ n ++ "' exists in the database but not in the baseline"⟩)
    (fun n a b =>
      if a.columns = b.columns ∧ a.unique = b.unique then [] else
        [⟨.indexMismatch, .medium, n, .index a, .index b, "Index '" ++ n ++ "' definition changed"⟩])

def compareViews (expected actual : List View) : List Drift :=
  compareNamed View.name expected actual
    (fun n v => ⟨.missingTable, .medium, n, .view v, .absent, "View '" ++ n ++ "' is missing from the database"⟩)
    (fun n v => ⟨.extraTable, .low, n, .absent, .view v,
      "View '" ++ n ++ "' exists in the database but not in the baseline"⟩)
    (fun n a b =>
      if a.definition = b.definition then [] else
        [⟨.constraintMismatch, .medium, n, .view a, .view b, "View '" ++ n ++ "' definition changed"⟩])

def compare (expected actual : Snapshot) : List Drift :=
  let shared := expected.tableNames.filter actual.tableNames.contains
  compareTables expected actual ++
    (match expected.indexes, actual.indexes with
      | some a, some b => compareIndexes shared a b
      | _, _ => []) ++
    (match expected.views, actual.views with
      | some a, some b => compareViews a b
      | _, _ => [])

end Snapshot

end SchemaConcord
