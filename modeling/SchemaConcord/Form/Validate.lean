import SchemaConcord.Form.Expect
import SchemaConcord.Form.Match
import SchemaConcord.Route.Input

/-!
# Forms against a schema

A form is compared with its table field by field: a field needs a column, of a type that suits its kind, that allows
null unless the field is required, and that is as long as the field lets its text be. A column that needs a value
needs a field. Changes to the table that would suit the form are proposed as statements, and never made.
-/

namespace SchemaConcord

open Text

namespace Table

def fieldColumn? (t : Table) (field : String) : Option Column :=
  t.column? field <|> t.column? (Naming.snakeCase field)

end Table

namespace Column

def needsValue (c : Column) : Bool := !c.nullable && c.default.isNone && !c.autoIncrement

end Column

namespace FormField

def kindMismatch? (f : FormField) (c : Column) : Option KindMismatch :=
  if f.kind.compatible c.fieldKind then none else some ⟨f.name, c.name, c.fieldKind, f.kind, c.type⟩

/-- A required field over a column that may be null, or an optional one over a column that needs a value. -/
def presenceMismatch? (f : FormField) (c : Column) : Option RuleMismatch :=
  if f.required && c.nullable then
    some ⟨f.name, c.name, "NULL", "required", "Field is required but column allows NULL"⟩
  else if !f.required && c.needsValue then
    some ⟨f.name, c.name, "NOT NULL", "optional", "Field is optional but column requires a value"⟩
  else none

def lengthMismatch? (f : FormField) (c : Column) : Option RuleMismatch :=
  match c.maxLength?, f.rules.bind (·.maxLength) with
  | some limit, some declared =>
    if (limit : Int) < declared then
      some ⟨f.name, c.name, "max_length<=" ++ toString limit, "max_length=" ++ toString declared,
        "Field max length " ++ toString declared ++ " exceeds column limit " ++ toString limit⟩
    else none
  | _, _ => none

end FormField

namespace Form

def pairs (f : Form) (t : Table) : List (FormField × Column) :=
  f.fields.filterMap fun x => (t.fieldColumn? x.name).map fun c => (x, c)

def checkTable (f : Form) (t : Table) : FormCheck :=
  let covered := (f.pairs t).map fun (_, c) => c.name
  { form := f
    table := some t.name
    missingColumns := (t.columns.filter fun c => c.needsValue && !covered.contains c.name).map (·.name)
    kindMismatches := (f.pairs t).filterMap fun (x, c) => x.kindMismatch? c
    extraFields :=
      (f.fields.filter fun x => (t.fieldColumn? x.name).isNone && !isUnstored x.name).map (·.name)
    ruleMismatches :=
      (f.pairs t).flatMap fun (x, c) => (x.presenceMismatch? c).toList ++ (x.lengthMismatch? c).toList }

def check (f : Form) (s : Snapshot) : FormCheck :=
  match s.formTable? f.name with
  | some t => f.checkTable t
  | none => ⟨f, none, [], [], [], []⟩

end Form

namespace FormCheck

/-- Statements that would suit the table to the form: a column for each extra field, and another type where the kind
does not suit. -/
def migration (c : FormCheck) : List String :=
  match c.table with
  | none => []
  | some t =>
    let alter := "ALTER TABLE \"" ++ t ++ "\" "
    (c.extraFields.filterMap fun name => (c.form.field? name).map fun f =>
      alter ++ "ADD COLUMN \"" ++ Naming.snakeCase name ++ "\" " ++ f.columnType ++
        (if f.required then " NOT NULL;" else " NULL;")) ++
    c.kindMismatches.filterMap fun m => (c.form.field? m.field).map fun f =>
      alter ++ "ALTER COLUMN \"" ++ m.column ++ "\" TYPE " ++ f.columnType ++ ";"

end FormCheck

end SchemaConcord
