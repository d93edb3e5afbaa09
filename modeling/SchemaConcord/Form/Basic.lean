import SchemaConcord.Decimal.Binary

/-!
# Forms

The forms of a user interface with their fields, and what a comparison of a form with a table finds.
-/

namespace SchemaConcord

inductive FieldKind where
  | text | email | password | number | date | datetime | time | checkbox | radio | select | multiselect | textarea
  | file | hidden
  deriving DecidableEq, Repr, Inhabited

namespace FieldKind

def word : FieldKind → String
  | .text => "text"
  | .email => "email"
  | .password => "password"
  | .number => "number"
  | .date => "date"
  | .datetime => "datetime"
  | .time => "time"
  | .checkbox => "checkbox"
  | .radio => "radio"
  | .select => "select"
  | .multiselect => "multiselect"
  | .textarea => "textarea"
  | .file => "file"
  | .hidden => "hidden"

def all : List FieldKind :=
  [.text, .email, .password, .number, .date, .datetime, .time, .checkbox, .radio, .select, .multiselect, .textarea,
    .file, .hidden]

end FieldKind

structure FieldRules where
  min : Option Binary64
  max : Option Binary64
  minLength : Option Int
  maxLength : Option Int
  pattern : Option String
  deriving DecidableEq, Repr

def FieldRules.free : FieldRules := ⟨none, none, none, none, none⟩

structure FormField where
  name : String
  kind : FieldKind
  required : Bool
  rules : Option FieldRules
  deriving DecidableEq, Repr

structure Form where
  name : String
  source : String
  fields : List FormField
  submitAction : String
  deriving DecidableEq, Repr

namespace Form

def field? (f : Form) (name : String) : Option FormField := f.fields.find? (·.name = name)

end Form

structure KindMismatch where
  field : String
  column : String
  expected : FieldKind
  actual : FieldKind
  columnType : String
  deriving DecidableEq, Repr

/-- A rule of a field that disagrees with its column; `expected` is the side of the column. -/
structure RuleMismatch where
  field : String
  column : String
  expected : String
  actual : String
  message : String
  deriving DecidableEq, Repr

/-- A form compared with its table; without a table there is nothing else to say. -/
structure FormCheck where
  form : Form
  table : Option String
  missingColumns : List String
  kindMismatches : List KindMismatch
  extraFields : List String
  ruleMismatches : List RuleMismatch
  deriving DecidableEq, Repr

namespace FormCheck

def isValid (c : FormCheck) : Bool :=
  c.missingColumns.isEmpty && c.kindMismatches.isEmpty && c.extraFields.isEmpty && c.ruleMismatches.isEmpty

end FormCheck

end SchemaConcord
