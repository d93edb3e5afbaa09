import SchemaConcord.Datum.Basic
import SchemaConcord.Moment.Basic
import SchemaConcord.Toml.Text

/-!
# Numbers, dates and times of TOML

Digits may have single underscores between them. A date, a time, or a date with a time has to exist in the calendar;
it is kept as its text.
-/

namespace SchemaConcord.Toml

open Text

/-! ## Numbers -/

/-- Digits and what follows them; an underscore counts as part of them before another digit. -/
def digits (isDigit : Char → Bool) : List Char → List Char × List Char
  | [] => ([], [])
  | c :: rest =>
    if isDigit c then
      let (ds, tail) := digits isDigit rest
      (c :: ds, tail)
    else if c == '_' && (rest.head?.map isDigit).getD false then digits isDigit rest
    else ([], c :: rest)

def digits? (isDigit : Char → Bool) : List Char → Option (List Char × List Char)
  | [] => none
  | c :: rest => if isDigit c then some (digits isDigit (c :: rest)) else none

def valueIn (base : Nat) (ds : List Char) : Nat := ds.foldl (fun n c => n * base + (hexValue? c).getD 0) 0

def isDigitOf (base : Nat) (c : Char) : Bool := (hexValue? c).any (· < base)

def based? : List Char → Option (Datum × List Char)
  | '0' :: mark :: rest => do
    let base ← if mark == 'x' then some 16 else if mark == 'o' then some 8 else if mark == 'b' then some 2 else none
    let (ds, tail) ← digits? (isDigitOf base) rest
    return (Datum.ofNat (valueIn base ds), tail)
  | _ => none

def sign : List Char → Bool × List Char
  | '-' :: rest => (true, rest)
  | '+' :: rest => (false, rest)
  | cs => (false, cs)

/-- The whole part of a number: a zero, or digits that start with another one. -/
def wholePart? : List Char → Option (List Char × List Char)
  | '0' :: rest => some (['0'], rest)
  | cs => digits? isAsciiDigit cs

def fraction? : List Char → Option (List Char × List Char)
  | '.' :: rest => digits? isAsciiDigit rest
  | _ => none

def exponent? : List Char → Option (Int × List Char)
  | c :: rest =>
    if c == 'e' || c == 'E' then
      let (negative, rest) := sign rest
      (digits? isAsciiDigit rest).map fun (ds, tail) =>
        (if negative then -(valueIn 10 ds : Int) else (valueIn 10 ds : Int), tail)
    else none
  | [] => none

def decimal? (cs : List Char) : Option (Datum × List Char) := do
  let (negative, rest) := sign cs
  let (whole, rest) ← wholePart? rest
  let n := valueIn 10 whole
  match fraction? rest, exponent? ((fraction? rest).elim rest (·.2)) with
  | none, none => return (.int (if negative then -(n : Int) else n), rest)
  | none, some (e, tail) => return (.real (.ofDecimal negative n e), tail)
  | some (f, tail), none => return (.real (.ofDecimal negative (valueIn 10 (whole ++ f)) (-(f.length : Int))), tail)
  | some (f, _), some (e, tail) =>
    return (.real (.ofDecimal negative (valueIn 10 (whole ++ f)) (e - f.length)), tail)

def wordNumber? (cs : List Char) : Option (Datum × List Char) :=
  let (negative, rest) := sign cs
  match rest with
  | 'i' :: 'n' :: 'f' :: tail => some (.real (.infinite negative), tail)
  | 'n' :: 'a' :: 'n' :: tail => some (.real .nan, tail)
  | _ => none

def number? (cs : List Char) : Option (Datum × List Char) := based? cs <|> decimal? cs <|> wordNumber? cs

/-! ## Dates and times -/

def field? (n bound : Nat) (cs : List Char) : Option (Nat × List Char) :=
  let ds := cs.take n
  if ds.length = n && ds.all isAsciiDigit && valueIn 10 ds < bound then some (valueIn 10 ds, cs.drop n) else none

def afterChar? (c : Char) (f : List Char → Option α) : List Char → Option α
  | d :: rest => if c == d then f rest else none
  | [] => none

def afterTime? (cs : List Char) : Option (List Char) := do
  let (_, rest) ← field? 2 24 cs
  let (_, rest) ← afterChar? ':' (field? 2 60) rest
  let (_, rest) ← afterChar? ':' (field? 2 60) rest
  match rest with
  | '.' :: d :: tail => return if isAsciiDigit d then tail.dropWhile isAsciiDigit else rest
  | _ => return rest

def afterOffset (cs : List Char) : List Char :=
  let hours (rest : List Char) : Option (List Char) := do
    let (_, rest) ← field? 2 24 rest
    let (_, rest) ← afterChar? ':' (field? 2 60) rest
    return rest
  match cs with
  | 'Z' :: rest | 'z' :: rest => rest
  | '+' :: rest | '-' :: rest => (hours rest).getD cs
  | _ => cs

def date? (cs : List Char) : Option ((Nat × Nat × Nat) × List Char) := do
  let (year, rest) ← field? 4 10000 cs
  let (month, rest) ← afterChar? '-' (field? 2 13) rest
  let (day, rest) ← afterChar? '-' (field? 2 32) rest
  if month = 0 || day = 0 then none else some ((year, month, day), rest)

/-- A date or time: how much of the text it takes, and whether the calendar has it. -/
def clock? (cs : List Char) : Option (Bool × List Char) :=
  match date? cs with
  | some ((year, month, day), rest) =>
    let tail := match rest with
      | c :: more =>
        if c == 'T' || c == 't' || c == ' ' then (afterTime? more).elim rest afterOffset else rest
      | [] => rest
    some (1 ≤ year && day ≤ Moment.daysInMonth year month, tail)
  | none => (afterTime? cs).map fun tail => (true, tail)

end SchemaConcord.Toml
