import SchemaConcord.Datum.Basic
import SchemaConcord.Decimal.Shortest
import SchemaConcord.Text.Edit
import SchemaConcord.Text.Quoted

/-!
# Values in messages

How a message shows a value: a text as it stands at the top and quoted inside a list or record, flags and the null
value by their capitalised words, lists in brackets and records in braces.
-/

namespace SchemaConcord.Datum

open Text

mutual

def shown : Datum → String
  | .null => "None"
  | .flag b => if b then "True" else "False"
  | .int n => toString n
  | .real x => x.text
  | .text s => quoted s
  | .time s => s
  | .list items => "[" ++ joinWith ", " (shownItems items) ++ "]"
  | .record fields => "\x7b" ++ joinWith ", " (shownFields fields) ++ "\x7d"

def shownItems : List Datum → List String
  | [] => []
  | v :: rest => shown v :: shownItems rest

def shownFields : List (String × Datum) → List String
  | [] => []
  | (k, v) :: rest => (quoted k ++ ": " ++ shown v) :: shownFields rest

end

def display : Datum → String
  | .text s => s
  | v => shown v

end SchemaConcord.Datum
