import SchemaConcord.Decimal.Read
import SchemaConcord.Moment.Basic

/-!
# Reading moments

`Moment.read?` reads a date with a time and an optional offset, a count of seconds or milliseconds, or a date
alone, which stands for its midnight.
-/

namespace SchemaConcord.Moment

open Text

def twoDigits? : List Char → Option (Nat × List Char)
  | a :: b :: rest => if isAsciiDigit a && isAsciiDigit b then some (natOfDigits [a, b], rest) else none
  | _ => none

def date? : List Char → Option ((Nat × Nat × Nat) × List Char)
  | a :: b :: c :: d :: '-' :: rest => do
    if !([a, b, c, d].all isAsciiDigit) then none
    let (month, rest) ← twoDigits? rest
    match rest with
    | '-' :: rest => do
      let (day, rest) ← twoDigits? rest
      let year := natOfDigits [a, b, c, d]
      if year == 0 || month == 0 || 12 < month || day == 0 || daysInMonth year month < day then none
      return ((year, month, day), rest)
    | _ => none
  | _ => none

/-- The fraction of a second in microseconds; digits after the sixth are dropped. -/
def fraction? : List Char → Option (Nat × List Char)
  | c :: rest =>
    if c == '.' || c == ',' then
      let ds := rest.takeWhile isAsciiDigit
      if ds.isEmpty then none
      else some (natOfDigits (ds.take 6) * Nat.pow 10 (6 - ds.length), rest.dropWhile isAsciiDigit)
    else some (0, c :: rest)
  | [] => some (0, [])

def time? (cs : List Char) : Option ((Nat × Nat × Nat × Nat) × List Char) := do
  let (hour, rest) ← twoDigits? cs
  match rest with
  | ':' :: rest => do
    let (minute, rest) ← twoDigits? rest
    if 23 < hour || 59 < minute then none
    match rest with
    | ':' :: rest => do
      let (second, rest) ← twoDigits? rest
      if 59 < second then none
      let (micro, rest) ← fraction? rest
      return ((hour, minute, second, micro), rest)
    | _ => return ((hour, minute, 0, 0), rest)
  | _ => none

/-- The end of the text: nothing, `Z`, or a signed offset of hours and minutes below a day. -/
def offset? : List Char → Option (Option Int)
  | [] => some none
  | ['Z'] => some (some 0)
  | ['z'] => some (some 0)
  | sign :: rest =>
    if sign == '+' || sign == '-' || sign == '\u2212' then do
      let (hours, rest) ← twoDigits? rest
      let rest := match rest with
        | ':' :: more => more
        | _ => rest
      let (minutes, rest) ← twoDigits? rest
      if !rest.isEmpty || 59 < minutes || 24 * 60 ≤ hours * 60 + minutes then none
      let total : Int := hours * 60 + minutes
      return some (if sign == '+' then total else -total)
    else none

def dateTime? (cs : List Char) : Option Moment := do
  let ((year, month, day), rest) ← date? cs
  match rest with
  | c :: rest => do
    if !(c == 'T' || c == 't' || c == ' ' || c == '_') then none
    let ((hour, minute, second, micro), rest) ← time? rest
    let offset ← offset? rest
    return { year, month, day, hour, minute, second, micro, offset }
  | [] => none

def count? (cs : List Char) : Option Moment := do
  let (negative, body) := splitSign cs
  let ds := body.takeWhile isAsciiDigit
  if ds.isEmpty then none
  let n : Int := natOfDigits ds
  let n := if negative then -n else n
  match body.dropWhile isAsciiDigit with
  | [] => ofEpoch? n 0
  | '.' :: more =>
    if more.isEmpty || !more.all isAsciiDigit then none
    else ofEpoch? n (natOfDigits (more.take 6) * Nat.pow 10 (6 - more.length))
  | _ => none

def midnight? (cs : List Char) : Option Moment := do
  let ((year, month, day), rest) ← date? cs
  if rest.isEmpty then
    return { year, month, day, hour := 0, minute := 0, second := 0, micro := 0, offset := none }
  else none

def read? (s : String) : Option Moment :=
  let cs := s.toList
  (dateTime? cs).or ((count? cs).or (midnight? cs))

/-- The moment a real number of seconds or milliseconds names; the fraction is rounded to microseconds. -/
def ofReal? (x : Binary64) : Option Moment := do
  let whole ← x.whole.toOption
  let fraction := (x.sub (.ofInt whole))
  let size := if fraction.isNegative then fraction.negate else fraction
  let micro ← ((size.mul (.ofInt 1000000)).roundPlaces 0).toInt?
  ofEpoch? (if fraction.isNegative && !fraction.isZero then whole - 1 else whole) micro.toNat

end SchemaConcord.Moment
