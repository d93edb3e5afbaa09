import SchemaConcord.Form.Basic
import SchemaConcord.Schema.Document

/-!
# Form documents

Forms, their fields and the findings about them as records, and the reading of such records.
-/

namespace SchemaConcord

open Datum Reader

def fieldKind : Reader FieldKind := choice .enumValue (wordTable FieldKind.word FieldKind.all)

namespace FieldRules

def toDatum (r : FieldRules) : Datum :=
  .record [("min", ofOption .real r.min), ("max", ofOption .real r.max), ("min_length", ofOption .int r.minLength),
    ("max_length", ofOption .int r.maxLength), ("pattern", ofOption .text r.pattern)]

def read : Reader FieldRules :=
  model fun f => FieldRules.mk <$> optionalField f "min" real <*> optionalField f "max" real <*>
    optionalField f "min_length" int <*> optionalField f "max_length" int <*> optionalField f "pattern" text

end FieldRules

namespace FormField

def toDatum (x : FormField) : Datum :=
  .record [("name", .text x.name), ("type", .text x.kind.word), ("required", .flag x.required),
    ("validation", ofOption FieldRules.toDatum x.rules)]

def read : Reader FormField :=
  model fun f => FormField.mk <$> needField f "name" text <*> defaultField f "type" fieldKind .text <*>
    defaultField f "required" flag false <*> optionalField f "validation" FieldRules.read

end FormField

namespace Form

def toDatum (x : Form) : Datum :=
  .record [("name", .text x.name), ("source", .text x.source), ("fields", .list (x.fields.map FormField.toDatum)),
    ("submit_action", .text x.submitAction)]

def read : Reader Form :=
  model fun f => Form.mk <$> needField f "name" text <*> defaultField f "source" text "" <*>
    defaultField f "fields" (list FormField.read) [] <*> defaultField f "submit_action" text "submit"

end Form

namespace KindMismatch

def toDatum (m : KindMismatch) : Datum :=
  .record [("field", .text m.field), ("column", .text m.column), ("expected", .text m.expected.word),
    ("actual", .text m.actual.word), ("column_type", .text m.columnType)]

def read : Reader KindMismatch :=
  model fun f => KindMismatch.mk <$> needField f "field" text <*> needField f "column" text <*>
    needField f "expected" fieldKind <*> needField f "actual" fieldKind <*> defaultField f "column_type" text ""

end KindMismatch

namespace RuleMismatch

def toDatum (m : RuleMismatch) : Datum :=
  .record [("field", .text m.field), ("column", .text m.column), ("expected", .text m.expected),
    ("actual", .text m.actual), ("message", .text m.message)]

def read : Reader RuleMismatch :=
  model fun f => RuleMismatch.mk <$> needField f "field" text <*> needField f "column" text <*>
    needField f "expected" text <*> needField f "actual" text <*> needField f "message" text

end RuleMismatch

namespace FormCheck

def toDatum (c : FormCheck) : Datum :=
  .record [("form", c.form.toDatum), ("table", ofOption .text c.table), ("missing_columns", texts c.missingColumns),
    ("type_mismatches", .list (c.kindMismatches.map KindMismatch.toDatum)), ("extra_fields", texts c.extraFields),
    ("validation_mismatches", .list (c.ruleMismatches.map RuleMismatch.toDatum))]

def read : Reader FormCheck :=
  model fun f => FormCheck.mk <$> needField f "form" Form.read <*> optionalField f "table" text <*>
    defaultField f "missing_columns" (list text) [] <*>
    defaultField f "type_mismatches" (list KindMismatch.read) [] <*>
    defaultField f "extra_fields" (list text) [] <*>
    defaultField f "validation_mismatches" (list RuleMismatch.read) []

end FormCheck

end SchemaConcord
