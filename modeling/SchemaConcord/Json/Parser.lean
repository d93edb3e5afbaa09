import SchemaConcord.Datum.Basic
import SchemaConcord.Text.Class

/-!
# Reading JSON texts

`Json.parse?` reads a whole text as one value. Beside the standard grammar it knows the words `NaN`, `Infinity`
and `-Infinity`; it refuses an unpaired surrogate escape, a raw control character in a string, and lists and
records nested deeper than a bound. A field name that comes again replaces the earlier value.
-/

namespace SchemaConcord.Json

open Text

def isJsonBlank (c : Char) : Bool := c == ' ' || c == '\t' || c == '\n' || c == '\r'

def skipBlanks (cs : List Char) : List Char := cs.dropWhile isJsonBlank

/-! ## Strings -/

def unit? : List Char → Option Nat
  | a :: b :: c :: d :: _ => do
    return (← hexValue? a) * 4096 + (← hexValue? b) * 256 + (← hexValue? c) * 16 + (← hexValue? d)
  | _ => none

def isHigh (n : Nat) : Bool := 55296 ≤ n && n < 56320

def isLow (n : Nat) : Bool := 56320 ≤ n && n < 57344

/-- The character an escape stands for and the number of characters it takes after the backslash. -/
def readEscape? : List Char → Option (Char × Nat)
  | 'u' :: rest => do
    let n ← unit? rest
    if isHigh n then
      match rest.drop 4 with
      | '\\' :: 'u' :: more => do
        let m ← unit? more
        if isLow m then return (Char.ofNat (65536 + (n - 55296) * 1024 + (m - 56320)), 11) else none
      | _ => none
    else if isLow n then none
    else return (Char.ofNat n, 5)
  | c :: _ =>
    if c == '"' || c == '\\' || c == '/' then some (c, 1)
    else if c == 'n' then some ('\n', 1)
    else if c == 't' then some ('\t', 1)
    else if c == 'r' then some ('\r', 1)
    else if c == 'b' then some (Char.ofNat 8, 1)
    else if c == 'f' then some (Char.ofNat 12, 1)
    else none
  | [] => none

/-- The characters up to the closing quote and what follows it; the first `skip` characters belong to an escape
that has been read. -/
def stringRest? (skip : Nat) : List Char → Option (List Char × List Char)
  | [] => none
  | c :: rest =>
    match skip with
    | n + 1 => stringRest? n rest
    | 0 =>
      if c == '"' then some ([], rest)
      else if c == '\\' then do
        let (d, used) ← readEscape? rest
        let (cs, tail) ← stringRest? used rest
        return (d :: cs, tail)
      else if c.toNat < 32 then none
      else do
        let (cs, tail) ← stringRest? 0 rest
        return (c :: cs, tail)

/-! ## Numbers -/

def natOf (ds : List Char) : Nat := ds.foldl (fun n c => n * 10 + (c.toNat - 48)) 0

def fraction? : List Char → Option (Option (List Char) × List Char)
  | '.' :: rest =>
    let ds := rest.takeWhile isAsciiDigit
    if ds.isEmpty then none else some (some ds, rest.dropWhile isAsciiDigit)
  | cs => some (none, cs)

def exponent? : List Char → Option (Option Int × List Char)
  | [] => some (none, [])
  | e :: rest =>
    if e == 'e' || e == 'E' then
      let (negative, rest) := match rest with
        | '-' :: more => (true, more)
        | '+' :: more => (false, more)
        | _ => (false, rest)
      let ds := rest.takeWhile isAsciiDigit
      if ds.isEmpty then none
      else
        let x : Int := natOf ds
        some (some (if negative then -x else x), rest.dropWhile isAsciiDigit)
    else some (none, e :: rest)

/-- An unsigned number; one with a fraction or an exponent is real. -/
def number? (negative : Bool) (cs : List Char) : Option (Datum × List Char) := do
  let ds := cs.takeWhile isAsciiDigit
  if ds.isEmpty || (1 < ds.length && ds.head? == some '0') then none
  else
    let (fraction, rest) ← fraction? (cs.dropWhile isAsciiDigit)
    let (power, rest) ← exponent? rest
    match fraction, power with
    | none, none =>
      let n : Int := natOf ds
      return (.int (if negative then -n else n), rest)
    | _, _ =>
      let f := fraction.getD []
      return (.real (.ofDecimal negative (natOf (ds ++ f)) (power.getD 0 - f.length)), rest)

/-! ## Values -/

def afterWord? (word : List Char) (v : Datum) (cs : List Char) : Option (Datum × List Char) :=
  (word.isPrefixOf? cs).map fun rest => (v, rest)

def scalar? : List Char → Option (Datum × List Char)
  | '"' :: rest => (stringRest? 0 rest).map fun (cs, tail) => (.text (String.ofList cs), tail)
  | 't' :: rest => afterWord? ['r', 'u', 'e'] (.flag true) rest
  | 'f' :: rest => afterWord? ['a', 'l', 's', 'e'] (.flag false) rest
  | 'n' :: rest => afterWord? ['u', 'l', 'l'] .null rest
  | 'N' :: rest => afterWord? ['a', 'N'] (.real .nan) rest
  | 'I' :: rest => afterWord? "nfinity".toList (.real (.infinite false)) rest
  | '-' :: 'I' :: rest => afterWord? "nfinity".toList (.real (.infinite true)) rest
  | '-' :: rest => number? true rest
  | cs => number? false cs

/-- The items of a list up to its closing bracket; `fuel` bounds their number. -/
def items? (value? : List Char → Option (Datum × List Char)) : Nat → List Char → Option (List Datum × List Char)
  | 0, _ => none
  | fuel + 1, cs => do
    let (v, rest) ← value? (skipBlanks cs)
    match skipBlanks rest with
    | ',' :: more => do
      let (vs, tail) ← items? value? fuel more
      return (v :: vs, tail)
    | ']' :: tail => return ([v], tail)
    | _ => none

/-- The fields of a record up to its closing brace; `fuel` bounds their number. -/
def fields? (value? : List Char → Option (Datum × List Char)) :
    Nat → List Char → Option (List (String × Datum) × List Char)
  | 0, _ => none
  | fuel + 1, cs =>
    match skipBlanks cs with
    | '"' :: rest => do
      let (name, rest) ← stringRest? 0 rest
      match skipBlanks rest with
      | ':' :: rest => do
        let (v, rest) ← value? (skipBlanks rest)
        match skipBlanks rest with
        | ',' :: more => do
          let (fs, tail) ← fields? value? fuel more
          return ((String.ofList name, v) :: fs, tail)
        | '}' :: tail => return ([(String.ofList name, v)], tail)
        | _ => none
      | _ => none
    | _ => none

def mergeFields (fields : List (String × Datum)) : List (String × Datum) :=
  fields.foldl (fun acc (k, v) => Datum.putField k v acc) []

def empty? : List Char → Option (Datum × List Char)
  | '[' :: rest => match skipBlanks rest with
    | ']' :: tail => some (.list [], tail)
    | _ => none
  | '{' :: rest => match skipBlanks rest with
    | '}' :: tail => some (.record [], tail)
    | _ => none
  | _ => none

/-- A value whose lists and records nest at most `depth` deep, empty ones not counted, and what follows it. -/
def value? : Nat → List Char → Option (Datum × List Char)
  | 0, cs => empty? cs <|> scalar? cs
  | depth + 1, cs =>
    match empty? cs with
    | some r => some r
    | none =>
      match cs with
      | '[' :: rest => (items? (value? depth) (rest.length + 1) rest).map fun (vs, tail) => (.list vs, tail)
      | '{' :: rest =>
        (fields? (value? depth) (rest.length + 1) rest).map fun (fs, tail) => (.record (mergeFields fs), tail)
      | _ => scalar? cs

def parse? (depth : Nat) (cs : List Char) : Option Datum :=
  match value? depth (skipBlanks cs) with
  | some (v, rest) => if (skipBlanks rest).isEmpty then some v else none
  | none => none

end SchemaConcord.Json
