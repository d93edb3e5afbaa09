import SchemaConcord.Datum.Basic
import SchemaConcord.Schema.Basic
import SchemaConcord.Source.Lexer
import SchemaConcord.Text.Case
import SchemaConcord.Text.Edit

/-!
# Columns as input

Which columns of a table a client may send, what type their values have, which of them are required, and the
attribute names that stand for them.
-/

namespace SchemaConcord

open Text

inductive ValueType where
  | uuid | bool | json | datetime | date | time | str | int | float
  deriving DecidableEq, Repr

def ValueType.word : ValueType → String
  | .uuid => "UUID"
  | .bool => "bool"
  | .json => "dict[str, Any]"
  | .datetime => "datetime"
  | .date => "date"
  | .time => "time"
  | .str => "str"
  | .int => "int"
  | .float => "float"

def auditColumns : List String := ["created_at", "updated_at", "createdAt", "updatedAt"]

def lengthDigits? (cs : List Char) : Option (List Char) :=
  let ds := cs.takeWhile isDecimal
  if ds.isEmpty then none
  else match cs.dropWhile isDecimal with
    | ')' :: _ => some ds
    | _ => none

def charLength? : List Char → Option Nat
  | [] => none
  | c :: rest =>
    match (after? "char(".toList (c :: rest)).bind lengthDigits? with
    | some ds => some (ds.foldl (fun n d => n * 10 + (digitValue? d).getD 0) 0)
    | none => charLength? rest

namespace Column

def valueType (c : Column) : ValueType :=
  let t := lowercase c.type
  if contains t "uuid" then .uuid
  else if contains t "bool" then .bool
  else if contains t "json" then .json
  else if contains t "timestamp" || contains t "datetime" then .datetime
  else if hasHead t "date" then .date
  else if hasHead t "time" then .time
  else if contains t "interval" then .str
  else if contains t "int" || contains t "serial" then .int
  else if ["numeric", "decimal", "float", "double", "real", "money"].any (contains t) then .float
  else .str

def maxLength? (c : Column) : Option Nat := charLength? (lower c.type.toList)

/-- Whether input has to give a value; a partial input never has to. -/
def isRequiredInput (partialInput : Bool) (c : Column) : Bool := !partialInput && !c.nullable && c.default.isNone

def inputType (partialInput : Bool) (c : Column) : String :=
  if c.isRequiredInput partialInput then c.valueType.word else c.valueType.word ++ " | None"

end Column

namespace Table

/-- Columns that input may set: neither counted up nor recording times and, in a partial input, not in the key. -/
def inputColumns (partialInput : Bool) (t : Table) : List Column :=
  t.columns.filter fun c => !c.autoIncrement && !auditColumns.contains c.name &&
    !(partialInput && (t.primaryKey.getD []).contains c.name)

/-- Names and annotations of the input; of columns with one name, the last decides the annotation. -/
def requestFields (partialInput : Bool) (t : Table) : List (String × String) :=
  (t.inputColumns partialInput).foldl (fun fields c => Datum.putField c.name (c.inputType partialInput) fields) []

end Table

/-- The attribute that stands for a column: other characters become underscores, a name that would not be a plain
identifier gets a letter in front, and a keyword an underscore behind. -/
def fieldAttribute (name : String) : String :=
  let plain := name.toList.map fun c => if isWord c then c else '_'
  let safe := if isIdentifier plain && plain.head? != some '_' then plain else 'f' :: '_' :: plain
  let s := String.ofList safe
  if Source.keywords.contains s then s ++ "_" else s

end SchemaConcord
