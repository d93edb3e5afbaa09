import SchemaConcord.Decimal.Read
import SchemaConcord.Form.Basic
import SchemaConcord.Markup.Element
import SchemaConcord.Text.Class

/-!
# Controls

What a control element says about its field: the name, from its `name` or from what it is bound to, the kind, from
the element and its declared type, whether it is required, and the limits on its value.
-/

namespace SchemaConcord

open Text Markup

inductive LibraryControl where
  | declared
  | fixed (kind : FieldKind)
  deriving DecidableEq, Repr

def libraryControls : List (String × LibraryControl) := [
  ("el-input", .declared), ("el-input-number", .fixed .number), ("el-select", .fixed .select),
  ("el-date-picker", .fixed .date), ("el-time-picker", .fixed .time), ("el-time-select", .fixed .time),
  ("el-checkbox", .fixed .checkbox), ("el-switch", .fixed .checkbox), ("el-radio-group", .fixed .radio),
  ("el-upload", .fixed .file),
  ("v-text-field", .declared), ("v-textarea", .fixed .textarea), ("v-select", .fixed .select),
  ("v-autocomplete", .fixed .select), ("v-checkbox", .fixed .checkbox), ("v-switch", .fixed .checkbox),
  ("v-radio-group", .fixed .radio), ("v-file-input", .fixed .file),
  ("a-input", .declared), ("a-input-password", .fixed .password), ("a-input-number", .fixed .number),
  ("a-textarea", .fixed .textarea), ("a-select", .fixed .select), ("a-date-picker", .fixed .date),
  ("a-checkbox", .fixed .checkbox), ("a-switch", .fixed .checkbox), ("a-radio-group", .fixed .radio),
  ("a-upload", .fixed .file),
  ("q-input", .declared), ("q-select", .fixed .select), ("q-checkbox", .fixed .checkbox),
  ("q-toggle", .fixed .checkbox), ("q-option-group", .fixed .radio), ("q-file", .fixed .file),
  ("b-form-input", .declared), ("b-form-textarea", .fixed .textarea), ("b-form-select", .fixed .select),
  ("b-form-checkbox", .fixed .checkbox), ("b-form-file", .fixed .file)]

def declaredKinds : List (String × FieldKind) := [
  ("text", .text), ("search", .text), ("tel", .text), ("url", .text), ("email", .email), ("password", .password),
  ("number", .number), ("range", .number), ("date", .date), ("month", .date), ("week", .date),
  ("datetime", .datetime), ("datetime-local", .datetime), ("daterange", .date), ("time", .time),
  ("checkbox", .checkbox), ("radio", .radio), ("file", .file), ("hidden", .hidden), ("textarea", .textarea)]

def buttonTypes : List String := ["submit", "button", "reset", "image"]

def bindingAttributes : List String := ["v-model", "x-model", "ng-model", "[(ngmodel)]", "bind:value", "wire:model"]

namespace Markup.Element

/-! ## Names -/

def plainAttribute (name : String) : String := String.ofList (name.toList.takeWhile (· != '.'))

def lastWord? (cs : List Char) : Option String :=
  ((splitAt (fun c => !isWord c) cs).filter fun w => !w.isEmpty).getLast?.map String.ofList

def isBindingStart (c : Char) : Bool := isAsciiLetter c || c == '_' || c == '$'

/-- The last name of an expression: a start character and all word characters and dollar signs after it. -/
def lastName? (cs : List Char) : Option String :=
  ((splitAt (fun c => !(isWord c || c == '$')) cs).filterMap fun run =>
    match run.dropWhile fun c => !isBindingStart c with
    | [] => none
    | name => some (String.ofList name)).getLast?

def boundName? (item : String × String) : Option String :=
  if bindingAttributes.contains (plainAttribute item.1) then lastName? item.2.toList else none

/-- The field's name: the last word of `name`, unless that is computed, else the name it is bound to. -/
def fieldName? (e : Element) : Option String :=
  let written := match e.attribute? "name" with
    | some name => if name.toList.contains '{' then none else lastWord? name.toList
    | none => none
  written <|> e.attributes.findSome? boundName?

/-! ## Kinds -/

def isControl (e : Element) : Bool :=
  ["input", "textarea", "select"].contains e.name || (libraryControls.lookup e.name).isSome

def declaredType (e : Element) : String := onChars (fun cs => lower (trim isBlank cs)) ((e.attribute? "type").getD "")

def has (e : Element) (key : String) : Bool := (e.attribute? key).isSome

def declaredKind (e : Element) : FieldKind := (declaredKinds.lookup e.declaredType).getD .text

def selectKind (e : Element) : FieldKind := if e.has "multiple" then .multiselect else .select

/-- The kind of field a control stands for; buttons stand for none. -/
def fieldKind? (e : Element) : Option FieldKind :=
  if e.name = "input" then
    if buttonTypes.contains e.declaredType then none else some e.declaredKind
  else if e.name = "textarea" then some .textarea
  else if e.name = "select" then some e.selectKind
  else match libraryControls.lookup e.name with
    | none => none
    | some .declared => some e.declaredKind
    | some (.fixed .select) => some e.selectKind
    | some (.fixed .date) =>
      some (if ["datetime", "datetimerange"].contains e.declaredType then .datetime else .date)
    | some (.fixed kind) => some kind

/-! ## Rules -/

def plainValue (value : String) : String := onChars (fun cs => lower (trim isBlank cs)) value

/-- `required` holds unless it says false; the other spellings hold when they are empty or say so. -/
def isRequired (e : Element) : Bool :=
  match e.attribute? "required" with
  | some value => plainValue value != "false"
  | none =>
    match [":required", "v-bind:required", "aria-required"].findSome? e.attribute? with
    | some value => ["", "true", "required"].contains (plainValue value)
    | none => false

def number? (e : Element) (names : List String) : Option Binary64 :=
  names.findSome? fun name => (e.attribute? name).bind readDecimal?

/-- A length with its fraction dropped; it has to be a finite number. -/
def length (x : Option Binary64) : Except WholeFault (Option Int) := x.mapM Binary64.whole

def fieldRules (e : Element) : Except WholeFault (Option FieldRules) := do
  let minLength ← length (e.number? ["minlength", ":minlength"])
  let maxLength ← length (e.number? ["maxlength", ":maxlength"])
  let rules : FieldRules :=
    ⟨e.number? ["min", ":min"], e.number? ["max", ":max"], minLength, maxLength, e.attribute? "pattern"⟩
  return if rules = .free then none else some rules

end Markup.Element

end SchemaConcord
