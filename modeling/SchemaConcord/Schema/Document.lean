import SchemaConcord.Datum.Reader
import SchemaConcord.Schema.Basic

/-!
# Schema documents

Every part of a schema as a record of all its fields in a fixed order, and the reading of such records, where
absent fields take their defaults.
-/

namespace SchemaConcord

open Datum Reader

def wordTable (word : α → String) (all : List α) : List (String × α) := all.map fun a => (word a, a)

namespace ColumnReference

def toDatum (r : ColumnReference) : Datum :=
  .record [("table", .text r.table), ("column", .text r.column), ("on_delete", ofOption .text r.onDelete),
    ("on_update", ofOption .text r.onUpdate)]

def read : Reader ColumnReference :=
  model fun f => ColumnReference.mk <$> needField f "table" text <*> needField f "column" text <*>
    optionalField f "on_delete" text <*> optionalField f "on_update" text

end ColumnReference

namespace Column

def toDatum (c : Column) : Datum :=
  .record [("name", .text c.name), ("type", .text c.type), ("nullable", .flag c.nullable),
    ("unique", .flag c.unique), ("auto_increment", .flag c.autoIncrement), ("default", ofOption .text c.default),
    ("references", ofOption ColumnReference.toDatum c.references)]

def read : Reader Column :=
  model fun f => Column.mk <$> needField f "name" text <*> needField f "type" text <*>
    defaultField f "nullable" flag true <*> defaultField f "unique" flag false <*>
    defaultField f "auto_increment" flag false <*> optionalField f "default" text <*>
    optionalField f "references" ColumnReference.read

end Column

namespace Constraint

def toDatum (c : Constraint) : Datum :=
  .record [("name", .text c.name), ("kind", .text c.kind.word), ("columns", texts c.columns),
    ("definition", .text c.definition), ("references_table", ofOption .text c.referencesTable),
    ("references_columns", ofOption texts c.referencesColumns)]

def read : Reader Constraint :=
  model fun f => Constraint.mk <$> needField f "name" text <*>
    needField f "kind" (choice .enumValue (wordTable ConstraintKind.word ConstraintKind.all)) <*>
    defaultField f "columns" (list text) [] <*> defaultField f "definition" text "" <*>
    optionalField f "references_table" text <*> optionalField f "references_columns" (list text)

end Constraint

namespace Table

def toDatum (t : Table) : Datum :=
  .record [("name", .text t.name), ("columns", .list (t.columns.map Column.toDatum)),
    ("primary_key", ofOption texts t.primaryKey), ("constraints", .list (t.constraints.map Constraint.toDatum))]

def read : Reader Table :=
  model fun f => Table.mk <$> needField f "name" text <*> defaultField f "columns" (list Column.read) [] <*>
    optionalField f "primary_key" (list text) <*> defaultField f "constraints" (list Constraint.read) []

end Table

namespace Index

def toDatum (i : Index) : Datum :=
  .record [("table", .text i.table), ("name", .text i.name), ("columns", texts i.columns),
    ("unique", .flag i.unique)]

def read : Reader Index :=
  model fun f => Index.mk <$> needField f "table" text <*> needField f "name" text <*>
    defaultField f "columns" (list text) [] <*> defaultField f "unique" flag false

end Index

namespace ViewColumn

def toDatum (c : ViewColumn) : Datum := .record [("name", .text c.name), ("type", .text c.type)]

def read : Reader ViewColumn :=
  model fun f => ViewColumn.mk <$> needField f "name" text <*> needField f "type" text

end ViewColumn

namespace View

def toDatum (v : View) : Datum :=
  .record [("name", .text v.name), ("definition", .text v.definition),
    ("columns", .list (v.columns.map ViewColumn.toDatum))]

def read : Reader View :=
  model fun f => View.mk <$> needField f "name" text <*> defaultField f "definition" text "" <*>
    defaultField f "columns" (list ViewColumn.read) []

end View

namespace Snapshot

def toDatum (s : Snapshot) : Datum :=
  .record [("version", .text s.version), ("captured_at", .text s.capturedAt.jsonText),
    ("tables", .list (s.tables.map Table.toDatum)),
    ("views", ofOption (fun l => .list (l.map View.toDatum)) s.views),
    ("indexes", ofOption (fun l => .list (l.map Index.toDatum)) s.indexes)]

/-- A document without a capture time is taken to be captured at `now`. -/
def read (now : Moment) : Reader Snapshot :=
  model fun f => Snapshot.mk <$> needField f "version" text <*> defaultField f "captured_at" moment now <*>
    defaultField f "tables" (list Table.read) [] <*> optionalField f "views" (list View.read) <*>
    optionalField f "indexes" (list Index.read)

end Snapshot

end SchemaConcord
