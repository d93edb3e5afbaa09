import SchemaConcord.Schema.Basic
import SchemaConcord.Text.Edit
import SchemaConcord.Text.Quoted

/-!
# Parts of a schema in messages

How a message shows a part of a schema: its fields as `name=value`, the part itself named when it lies inside
another one.
-/

namespace SchemaConcord

open Text

namespace Shown

def flag (b : Bool) : String := if b then "True" else "False"

def option (f : α → String) : Option α → String
  | none => "None"
  | some a => f a

def list (f : α → String) (l : List α) : String := "[" ++ joinWith ", " (l.map f) ++ "]"

def fields (separator : String) (l : List (String × String)) : String :=
  joinWith separator (l.map fun (name, value) => name ++ "=" ++ value)

def part (name : String) (l : List (String × String)) : String := name ++ "(" ++ fields ", " l ++ ")"

def whole (l : List (String × String)) : String := fields " " l

def constraintKind (k : ConstraintKind) : String :=
  "<ConstraintKind." ++ (match k with
    | .primaryKey => "PRIMARY_KEY"
    | .foreignKey => "FOREIGN_KEY"
    | .unique => "UNIQUE"
    | .check => "CHECK") ++ ": " ++ quoted k.word ++ ">"

end Shown

open Shown

def ColumnReference.shownFields (r : ColumnReference) : List (String × String) :=
  [("table", quoted r.table), ("column", quoted r.column), ("on_delete", option quoted r.onDelete),
    ("on_update", option quoted r.onUpdate)]

def Column.shownFields (c : Column) : List (String × String) :=
  [("name", quoted c.name), ("type", quoted c.type), ("nullable", flag c.nullable), ("unique", flag c.unique),
    ("auto_increment", flag c.autoIncrement), ("default", option quoted c.default),
    ("references", option (fun r => part "ColumnReference" r.shownFields) c.references)]

def Constraint.shownFields (c : Constraint) : List (String × String) :=
  [("name", quoted c.name), ("kind", constraintKind c.kind), ("columns", list quoted c.columns),
    ("definition", quoted c.definition), ("references_table", option quoted c.referencesTable),
    ("references_columns", option (list quoted) c.referencesColumns)]

def Table.shownFields (t : Table) : List (String × String) :=
  [("name", quoted t.name), ("columns", list (fun c => part "Column" c.shownFields) t.columns),
    ("primary_key", option (list quoted) t.primaryKey),
    ("constraints", list (fun c => part "Constraint" c.shownFields) t.constraints)]

def Index.shownFields (i : Index) : List (String × String) :=
  [("table", quoted i.table), ("name", quoted i.name), ("columns", list quoted i.columns),
    ("unique", flag i.unique)]

def ViewColumn.shownFields (c : ViewColumn) : List (String × String) :=
  [("name", quoted c.name), ("type", quoted c.type)]

def View.shownFields (v : View) : List (String × String) :=
  [("name", quoted v.name), ("definition", quoted v.definition),
    ("columns", list (fun c => part "ViewColumn" c.shownFields) v.columns)]

end SchemaConcord
