import SchemaConcord.Database.Reflection
import SchemaConcord.Datum.Display
import SchemaConcord.Datum.Parts

/-!
# Recordings

A recording holds, as one record, what a database told about itself. What is missing in it counts as empty, and what
is in it but has no meaning is passed over.
-/

namespace SchemaConcord

open Datum

def ReflectedType.ofDatum : Datum → ReflectedType
  | .text s => .text s
  | v => .unwritten ((v.textPart? "uncompilable").getD "")

namespace ReflectedColumn

def ofDatum (v : Datum) : ReflectedColumn :=
  { name := (v.textPart? "name").getD ""
    type := .ofDatum ((v.field? "type").getD .null)
    nullable := ((v.field? "nullable").map holds).getD true
    default := (v.part? "default").map display
    autoIncrement := v.field? "autoincrement" = some (.flag true)
    identity := (v.part? "identity").isSome }

end ReflectedColumn

namespace ReflectedForeignKey

def ofDatum (v : Datum) : ReflectedForeignKey :=
  let options := (v.part? "options").getD .null
  { name := v.textPart? "name"
    columns := v.textsPart "constrained_columns"
    targetTable := (v.textPart? "referred_table").getD ""
    targetColumns := v.textsPart "referred_columns"
    onDelete := options.textPart? "ondelete"
    onUpdate := options.textPart? "onupdate" }

end ReflectedForeignKey

namespace ReflectedIndex

def ofDatum (v : Datum) : ReflectedIndex :=
  { name := (v.textPart? "name").getD ""
    columns := (v.itemsPart "column_names").map textOf?
    unique := ((v.field? "unique").map holds).getD false
    duplicatesConstraint := ((v.field? "duplicates_constraint").map holds).getD false }

end ReflectedIndex

namespace ReflectedTable

def ofDatum (v : Datum) : ReflectedTable :=
  let key := (v.part? "pk").getD .null
  { columns := if v.fieldsOf.isEmpty then none else some ((v.itemsPart "columns").map ReflectedColumn.ofDatum)
    primaryKey := ⟨key.textPart? "name", key.textsPart "constrained_columns"⟩
    foreignKeys := (v.itemsPart "fks").map ReflectedForeignKey.ofDatum
    uniques := (v.itemsPart "uniques").map fun u => ⟨u.textPart? "name", u.textsPart "column_names"⟩
    checks := if v.field? "checks" = some (.text "unsupported") then none
      else some ((v.itemsPart "checks").map fun c => ⟨c.textPart? "name", (c.textPart? "sqltext").getD ""⟩)
    indexes := (v.itemsPart "indexes").map ReflectedIndex.ofDatum }

end ReflectedTable

namespace ReflectedView

def ofDatum (v : Datum) : ReflectedView :=
  { definition := (v.textPart? "definition").filter (· != "unsupported")
    columns := (v.itemsPart "columns").map ReflectedColumn.ofDatum }

end ReflectedView

def inquiryNames : List (String × Inquiry) := [
  ("get_table_names", .tableNames), ("get_view_names", .viewNames), ("get_columns", .columns),
  ("get_pk_constraint", .primaryKey), ("get_foreign_keys", .foreignKeys), ("get_unique_constraints", .uniques),
  ("get_check_constraints", .checks), ("get_indexes", .indexes), ("get_view_definition", .viewDefinition)]

namespace Reflection

def ofDatum (v : Datum) : Reflection :=
  let parts (name : String) : List (String × Datum) := ((v.part? name).map fieldsOf).getD []
  { dialect := (v.textPart? "dialect").getD "sqlite"
    tables := (parts "tables").map fun (n, t) => (n, .ofDatum t)
    views := (parts "views").map fun (n, t) => (n, .ofDatum t)
    refusals := (parts "errors").filterMap fun (n, m) =>
      (inquiryNames.lookup n).bind fun i => m.textOf?.map fun reason => (i, reason) }

end Reflection

end SchemaConcord
