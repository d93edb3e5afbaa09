import SchemaConcord.Form.Basic
import SchemaConcord.Naming.Words
import SchemaConcord.Schema.Basic

/-!
# Fields and columns

The kind of field a column calls for, the kinds that may stand for each other, the column type a field calls for,
and the fields that are never stored.
-/

namespace SchemaConcord

open Text

def kindGroups : List (List FieldKind) :=
  [[.text, .email, .password, .number], [.select, .radio], [.date, .datetime]]

def FieldKind.compatible (actual expected : FieldKind) : Bool :=
  actual = expected || kindGroups.any fun g => g.contains actual && g.contains expected

def Column.fieldKind (c : Column) : FieldKind :=
  let t := lowercase c.type
  let name := lowercase c.name
  if contains t "bool" then .checkbox
  else if contains t "text" || contains t "clob" then .textarea
  else if contains t "timestamp" || contains t "datetime" || (contains t "date" && contains t "time") then .datetime
  else if contains t "date" then .date
  else if contains t "time" then .time
  else if ["int", "numeric", "decimal", "float", "double", "real"].any (contains t) then .number
  else if contains name "email" then .email
  else if contains name "password" then .password
  else .text

def unstoredFields : List String :=
  ["confirmpassword", "passwordconfirm", "passwordconfirmation", "rememberme", "remember", "agreetoterms",
    "acceptterms", "terms", "consent", "captcha", "recaptcha", "grecaptcharesponse", "csrftoken", "csrf", "token",
    "authenticitytoken", "csrfmiddlewaretoken"]

def isUnstored (field : String) : Bool := unstoredFields.contains (Naming.compact field)

namespace FieldRules

def isSmall (r : FieldRules) : Bool :=
  let below := match r.max with
    | some max => max.lt (.ofInt 32768)
    | none => false
  let above := match r.min with
    | some min => min != .nan && !min.lt (.ofInt (-32768))
    | none => true
  below && above

end FieldRules

def FormField.columnType (f : FormField) : String :=
  let rules := f.rules.getD .free
  match f.kind with
  | .text => match rules.maxLength with
    | some n => if n = 0 then "TEXT" else "VARCHAR(" ++ toString n ++ ")"
    | none => "TEXT"
  | .number => if rules.isSmall then "SMALLINT" else "INTEGER"
  | .date => "DATE"
  | .datetime => "TIMESTAMP"
  | .time => "TIME"
  | .checkbox => "BOOLEAN"
  | .textarea => "TEXT"
  | .file => "VARCHAR(500)"
  | .email | .password | .radio | .select | .multiselect | .hidden => "VARCHAR(255)"

end SchemaConcord
