import SchemaConcord.Datum.Basic

/-!
# Parts of values

Lenient access to what a value holds: what is missing, or of another kind, counts as empty. And words for the kinds
of values.
-/

namespace SchemaConcord

namespace Datum

def textOf? : Datum → Option String
  | .text s => some s
  | _ => none

def itemsOf : Datum → List Datum
  | .list l => l
  | _ => []

def fieldsOf : Datum → List (String × Datum)
  | .record l => l
  | _ => []

def part? (v : Datum) (name : String) : Option Datum := (v.field? name).filter (· != .null)

def textPart? (v : Datum) (name : String) : Option String := (v.part? name).bind textOf?

def textsPart (v : Datum) (name : String) : List String :=
  (((v.part? name).map itemsOf).getD []).filterMap textOf?

def itemsPart (v : Datum) (name : String) : List Datum := ((v.part? name).map itemsOf).getD []

/-- Whether a value counts as true: all but null, false, zero and what is empty. -/
def holds : Datum → Bool
  | .null => false
  | .flag b => b
  | .int n => n != 0
  | .real x => !x.isZero
  | .text s => !s.isEmpty
  | .time _ => true
  | .list l => !l.isEmpty
  | .record l => !l.isEmpty

def kindWord : Datum → String
  | .null => "NoneType"
  | .flag _ => "bool"
  | .int _ => "int"
  | .real _ => "float"
  | .text _ => "str"
  | .time s =>
    if s.toList[4]? = some '-' then (if s.toList.contains ':' then "datetime" else "date") else "time"
  | .list _ => "list"
  | .record _ => "dict"

end Datum

end SchemaConcord
