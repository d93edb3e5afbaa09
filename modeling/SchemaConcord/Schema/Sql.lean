import SchemaConcord.Schema.Basic
import SchemaConcord.Text.Case
import SchemaConcord.Text.Edit

/-!
# Schema statements

The SQL statements that create a part of a schema again: column definitions, tables, indexes and constraints.
-/

namespace SchemaConcord

open Text

namespace Sql

def name (n : String) : String := "\"" ++ n ++ "\""

def names (l : List String) : String := joinWith ", " (l.map name)

end Sql

def Column.sqlDefinition (c : Column) : String :=
  joinWith " " ([Sql.name c.name, uppercase c.type] ++
    (if c.nullable then [] else ["NOT NULL"]) ++
    (match c.default with
      | some d => ["DEFAULT " ++ d]
      | none => []) ++
    (if c.unique then ["UNIQUE"] else []) ++
    (match c.references with
      | some r => ["REFERENCES " ++ Sql.name r.table ++ "(" ++ Sql.name r.column ++ ")"]
      | none => []))

/-- Columns, the primary key, then the check constraints that have a definition. -/
def Table.createSql (t : Table) : String :=
  let columns := t.columns.map fun c => "  " ++ c.sqlDefinition
  let key := match t.primaryKey with
    | none => []
    | some [] => []
    | some keys => ["  PRIMARY KEY (" ++ Sql.names keys ++ ")"]
  let checks := (t.constraints.filter fun c => c.kind = .check ∧ !c.definition.isEmpty).map fun c =>
    "  CONSTRAINT " ++ Sql.name c.name ++ " " ++ c.definition
  "CREATE TABLE " ++ Sql.name t.name ++ " (\n" ++ joinWith ",\n" (columns ++ key ++ checks) ++ "\n);"

def Index.createSql (i : Index) : String :=
  "CREATE " ++ (if i.unique then "UNIQUE " else "") ++ "INDEX " ++ Sql.name i.name ++ " ON " ++ Sql.name i.table ++
    " (" ++ Sql.names i.columns ++ ");"

/-- The clause that imposes a constraint, when there is enough to restore it from. -/
def Constraint.clause? (c : Constraint) : Option String :=
  if !c.definition.isEmpty then some c.definition
  else if c.columns.isEmpty then none
  else match c.kind with
    | .unique => some ("UNIQUE (" ++ Sql.names c.columns ++ ")")
    | .primaryKey => some ("PRIMARY KEY (" ++ Sql.names c.columns ++ ")")
    | .foreignKey => match c.referencesTable with
      | none => none
      | some target =>
        if target.isEmpty then none
        else some ("FOREIGN KEY (" ++ Sql.names c.columns ++ ") REFERENCES " ++ Sql.name target ++ "(" ++
          Sql.names (c.referencesColumns.getD []) ++ ")")
    | .check => none

def Constraint.addSql? (table : String) (c : Constraint) : Option String :=
  c.clause?.map fun clause =>
    "ALTER TABLE " ++ Sql.name table ++ " ADD CONSTRAINT " ++ Sql.name c.name ++ " " ++ clause ++ ";"

end SchemaConcord
