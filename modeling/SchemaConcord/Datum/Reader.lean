import SchemaConcord.Datum.Basic
import SchemaConcord.Moment.Parser

/-!
# Reading models from untyped values

A reader turns a `Datum` into a model or lists every issue it found, each with its place and its cause, in the
order of the fields. Readers are lenient where a configuration is: a flag may be a word or a number, a number may
be a text, a moment may be a count of seconds; a text is only ever a text. Fields a model does not know are ignored.
-/

namespace SchemaConcord

inductive Step where
  | field (name : String)
  | item (index : Nat)
  deriving DecidableEq, Repr

/-- What is wrong with a value; the last case carries the wording of a rule of the model itself. -/
inductive Fault where
  | missing | stringType | boolType | boolParsing | intType | intParsing | intFromFloat | intSize | finiteNumber
  | floatType | floatParsing | listType | modelType | dictType | enumValue | literalValue | notBelow
  | datetimeType | datetimeParsing | datetimeFromDateParsing | pathType | jsonInvalid
  | rule (text : String)
  deriving DecidableEq, Repr

structure Issue where
  place : List Step
  fault : Fault
  deriving DecidableEq, Repr

namespace Fault

def word : Fault → String
  | .missing => "missing"
  | .stringType => "string_type"
  | .boolType => "bool_type"
  | .boolParsing => "bool_parsing"
  | .intType => "int_type"
  | .intParsing => "int_parsing"
  | .intFromFloat => "int_from_float"
  | .intSize => "int_parsing_size"
  | .finiteNumber => "finite_number"
  | .floatType => "float_type"
  | .floatParsing => "float_parsing"
  | .listType => "list_type"
  | .modelType => "model_type"
  | .dictType => "dict_type"
  | .enumValue => "enum"
  | .literalValue => "literal_error"
  | .notBelow => "greater_than_equal"
  | .datetimeType => "datetime_type"
  | .datetimeParsing => "datetime_parsing"
  | .datetimeFromDateParsing => "datetime_from_date_parsing"
  | .pathType => "path_type"
  | .jsonInvalid => "json_invalid"
  | .rule _ => "value_error"

end Fault

inductive Checked (α : Type) where
  | valid (a : α)
  | invalid (issues : List Issue)
  deriving Repr

namespace Checked

/-- Both outcomes are looked at, so that no issue of the second is lost behind one of the first. -/
instance : Applicative Checked where
  pure := .valid
  seq f x := match f, x () with
    | .valid f, .valid a => .valid (f a)
    | .valid _, .invalid issues => .invalid issues
    | .invalid issues, .valid _ => .invalid issues
    | .invalid issues, .invalid more => .invalid (issues ++ more)

def fault (f : Fault) : Checked α := .invalid [⟨[], f⟩]

def under (step : Step) : Checked α → Checked α
  | .valid a => .valid a
  | .invalid issues => .invalid (issues.map fun i => { i with place := step :: i.place })

def andThen (x : Checked α) (f : α → Checked β) : Checked β :=
  match x with
  | .valid a => f a
  | .invalid issues => .invalid issues

def toExcept : Checked α → Except (List Issue) α
  | .valid a => .ok a
  | .invalid issues => .error issues

end Checked

abbrev Reader (α : Type) := Datum → Checked α

namespace Reader

open Text

def any : Reader Datum := .valid

def text : Reader String
  | .text s => .valid s
  | _ => .fault .stringType

/-- The flag a word stands for; letter case of ASCII letters does not count. -/
def flagWord? (s : String) : Option Bool :=
  let w := String.ofList (s.toList.map asciiLower)
  if ["1", "t", "y", "on", "yes", "true"].contains w then some true
  else if ["0", "f", "n", "no", "off", "false"].contains w then some false
  else none

def flag : Reader Bool
  | .flag b => .valid b
  | .int n => if n = 0 then .valid false else if n = 1 then .valid true else .fault .boolParsing
  | .real x => match x.toInt? with
    | some 0 => .valid false
    | some 1 => .valid true
    | some _ => .fault .boolParsing
    | none => .fault .boolType
  | .text s => match flagWord? s with
    | some b => .valid b
    | none => .fault .boolParsing
  | _ => .fault .boolType

def wholeDigits? (cs : List Char) : Option Nat := do
  let ds ← dropUnderscores? false cs
  if ds.isEmpty || !ds.all isAsciiDigit then none else some (natOfDigits ds)

/-- A signed whole number; a point may follow it with zeros only. -/
def wholeText? (s : String) : Option Int := do
  let (negative, body) := splitSign (trim isBlank s.toList)
  let whole := body.takeWhile (· != '.')
  let zeros := (body.dropWhile (· != '.')).drop 1
  if !zeros.all (· == '0') || (whole.length < body.length && zeros.isEmpty) then none
  let n : Int ← wholeDigits? whole
  return if negative then -n else n

def int : Reader Int
  | .flag b => .valid (if b then 1 else 0)
  | .int n => .valid n
  | .real x =>
    if !x.isFinite then .fault .finiteNumber
    else match x.toInt? with
      | some n => if -(Int.pow 2 63) < n && n < Int.pow 2 63 then .valid n else .fault .intSize
      | none => .fault .intFromFloat
  | .text s => match wholeText? s with
    | some n => .valid n
    | none => .fault .intParsing
  | _ => .fault .intType

def intFrom (low : Int) : Reader Int := fun v =>
  (int v).andThen fun n => if low ≤ n then .valid n else .fault .notBelow

def real : Reader Binary64
  | .flag b => .valid (.ofInt (if b then 1 else 0))
  | .int n => .valid (.ofInt n)
  | .real x => .valid x
  | .text s => match if s.toList.all isAscii then readDecimal? s else none with
    | some x => .valid x
    | none => .fault .floatParsing
  | _ => .fault .floatType

def moment : Reader Moment
  | .text s => match Moment.read? s with
    | some m => .valid m
    | none => .fault .datetimeFromDateParsing
  | .int n => match Moment.ofEpoch? n 0 with
    | some m => .valid m
    | none => .fault .datetimeParsing
  | .real x => match Moment.ofReal? x with
    | some m => .valid m
    | none => .fault .datetimeParsing
  | _ => .fault .datetimeType

def choice (fault : Fault) (words : List (String × α)) : Reader α
  | .text s => match words.lookup s with
    | some a => .valid a
    | none => .fault fault
  | _ => .fault fault

def optional (r : Reader α) : Reader (Option α)
  | .null => .valid none
  | v => some <$> r v

def itemsFrom (r : Reader α) (index : Nat) : List Datum → Checked (List α)
  | [] => .valid []
  | v :: rest => (· :: ·) <$> (r v).under (.item index) <*> itemsFrom r (index + 1) rest

def list (r : Reader α) : Reader (List α)
  | .list items => itemsFrom r 0 items
  | _ => .fault .listType

def fieldsOf (r : Reader α) : List (String × Datum) → Checked (List (String × α))
  | [] => .valid []
  | (k, v) :: rest =>
    (fun a l => (k, a) :: l) <$> (r v).under (.field k) <*> fieldsOf r rest

def table (r : Reader α) : Reader (List (String × α))
  | .record fields => fieldsOf r fields
  | _ => .fault .dictType

def model (f : List (String × Datum) → Checked α) : Reader α
  | .record fields => f fields
  | _ => .fault .modelType

end Reader

def needField (fields : List (String × Datum)) (name : String) (r : Reader α) : Checked α :=
  match fields.lookup name with
  | some v => (r v).under (.field name)
  | none => .invalid [⟨[.field name], .missing⟩]

def defaultField (fields : List (String × Datum)) (name : String) (r : Reader α) (default : α) : Checked α :=
  match fields.lookup name with
  | some v => (r v).under (.field name)
  | none => .valid default

def optionalField (fields : List (String × Datum)) (name : String) (r : Reader α) : Checked (Option α) :=
  defaultField fields name r.optional none

end SchemaConcord
