import SchemaConcord.Text.Case
import SchemaConcord.Text.Edit

/-!
# Type texts

Column types are compared as texts, so the spellings of one type are brought together: lower case, single spaces,
none around commas and brackets, and the long standard names replaced by the short ones in common use.
-/

namespace SchemaConcord.TypeText

open Text

/-- Long type names and their short forms; a name stands before every name that it starts with. -/
def aliases : List (String × String) :=
  [("timestamp without time zone", "timestamp"), ("timestamp with time zone", "timestamptz"),
    ("time without time zone", "time"), ("time with time zone", "timetz"), ("character varying", "varchar"),
    ("double precision", "double"), ("national varchar", "nvarchar"), ("character", "char")]

def rejoin (c : Char) : List (List Char) → List Char
  | [] => []
  | [piece] => piece
  | piece :: pieces => piece ++ c :: rejoin c pieces

def tighten (c : Char) (cs : List Char) : List Char := rejoin c ((splitAt (· == c) cs).map (trim isBlank))

def trimInner : List (List Char) → List (List Char)
  | [] => []
  | [piece] => [piece]
  | piece :: pieces => trimRight isBlank piece :: trimInner pieces

def tightenBefore (c : Char) (cs : List Char) : List Char := rejoin c (trimInner (splitAt (· == c) cs))

def plain (raw : List Char) : List Char :=
  tightenBefore ')' (tighten '(' (tighten ',' (squeeze isBlank [' '] (lower (trim isBlank raw)))))

def shorten (cs : List Char) : List Char :=
  (aliases.findSome? fun (long, short) => (after? long.toList cs).map (short.toList ++ ·)).getD cs

def normalize (raw : String) : String := onChars (fun cs => shorten (plain cs)) raw

end SchemaConcord.TypeText
