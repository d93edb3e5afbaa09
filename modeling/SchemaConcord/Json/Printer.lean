import SchemaConcord.Datum.Basic
import SchemaConcord.Decimal.Shortest

/-!
# Writing JSON texts

Two layouts of one value. `Json.compact` writes no blank at all; `Json.indented` puts each item on a line of its
own, two spaces deeper than what holds it, and writes empty lists and records as `[]` and a pair of braces. Both
write ASCII only: any other character, and a control, becomes its UTF-16 units as `\uXXXX`.
-/

namespace SchemaConcord.Json

def hexDigit (n : Nat) : Char := if n < 10 then Char.ofNat (48 + n) else Char.ofNat (87 + n)

def unitEscape (n : Nat) : List Char :=
  ['\\', 'u', hexDigit (n / 4096 % 16), hexDigit (n / 256 % 16), hexDigit (n / 16 % 16), hexDigit (n % 16)]

def escapeChar (c : Char) : List Char :=
  if c == '"' then ['\\', '"']
  else if c == '\\' then ['\\', '\\']
  else if c == '\n' then ['\\', 'n']
  else if c == '\r' then ['\\', 'r']
  else if c == '\t' then ['\\', 't']
  else if c.toNat == 8 then ['\\', 'b']
  else if c.toNat == 12 then ['\\', 'f']
  else if 32 ≤ c.toNat && c.toNat < 127 then [c]
  else if c.toNat < 65536 then unitEscape c.toNat
  else
    let n := c.toNat - 65536
    unitEscape (55296 + n / 1024) ++ unitEscape (56320 + n % 1024)

def quote (cs : List Char) : List Char := '"' :: (cs.flatMap escapeChar ++ ['"'])

def intText (n : Int) : List Char :=
  if n < 0 then '-' :: Nat.toDigits 10 n.natAbs else Nat.toDigits 10 n.natAbs

/-- A real number by its shortest text; the three values that are not finite have words of their own. -/
def realText : Binary64 → List Char
  | .nan => "NaN".toList
  | .infinite s => (if s then "-Infinity" else "Infinity").toList
  | x => x.text.toList

def scalarText : Datum → List Char
  | .flag b => (if b then "true" else "false").toList
  | .int n => intText n
  | .real x => realText x
  | .text s => quote s.toList
  | .time s => quote s.toList
  | _ => "null".toList

mutual

def compactText : Datum → List Char
  | .list items => '[' :: (compactItems items ++ [']'])
  | .record fields => '{' :: (compactFields fields ++ ['}'])
  | v => scalarText v

def compactItems : List Datum → List Char
  | [] => []
  | [v] => compactText v
  | v :: rest => compactText v ++ ',' :: compactItems rest

def compactFields : List (String × Datum) → List Char
  | [] => []
  | [(k, v)] => quote k.toList ++ ':' :: compactText v
  | (k, v) :: rest => quote k.toList ++ ':' :: (compactText v ++ ',' :: compactFields rest)

end

def newLine (depth : Nat) : List Char := '\n' :: List.replicate (2 * depth) ' '

mutual

def indentedText (depth : Nat) : Datum → List Char
  | .list [] => ['[', ']']
  | .list items => '[' :: (indentedItems (depth + 1) items ++ newLine depth ++ [']'])
  | .record [] => ['{', '}']
  | .record fields => '{' :: (indentedFields (depth + 1) fields ++ newLine depth ++ ['}'])
  | v => scalarText v

def indentedItems (depth : Nat) : List Datum → List Char
  | [] => []
  | [v] => newLine depth ++ indentedText depth v
  | v :: rest => newLine depth ++ indentedText depth v ++ ',' :: indentedItems depth rest

def indentedFields (depth : Nat) : List (String × Datum) → List Char
  | [] => []
  | [(k, v)] => newLine depth ++ quote k.toList ++ ':' :: ' ' :: indentedText depth v
  | (k, v) :: rest =>
    newLine depth ++ quote k.toList ++ ':' :: ' ' :: (indentedText depth v ++ ',' :: indentedFields depth rest)

end

def compact (v : Datum) : String := String.ofList (compactText v)

def indented (v : Datum) : String := String.ofList (indentedText 0 v)

end SchemaConcord.Json
