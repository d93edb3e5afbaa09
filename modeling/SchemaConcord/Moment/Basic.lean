/-!
# Moments

A date and time of the proleptic Gregorian calendar with microseconds, and its offset from universal time when it
has one. The written forms: `isoText` always spells the offset out, `jsonText` writes `Z` for universal time, and
`stamp` is the form that file names take.
-/

namespace SchemaConcord

structure Moment where
  year : Nat
  month : Nat
  day : Nat
  hour : Nat
  minute : Nat
  second : Nat
  micro : Nat
  /-- In whole minutes, as all written forms have it. -/
  offset : Option Int
  deriving DecidableEq, Repr, Inhabited

namespace Moment

def isLeap (year : Nat) : Bool := year % 4 == 0 && (year % 100 != 0 || year % 400 == 0)

def daysInMonth (year month : Nat) : Nat :=
  if month == 2 then (if isLeap year then 29 else 28)
  else if month == 4 || month == 6 || month == 9 || month == 11 then 30
  else 31

def isValid (m : Moment) : Bool :=
  1 ≤ m.year && m.year ≤ 9999 && 1 ≤ m.month && m.month ≤ 12 && 1 ≤ m.day && m.day ≤ daysInMonth m.year m.month &&
    m.hour < 24 && m.minute < 60 && m.second < 60 && m.micro < 1000000

def padded (width n : Nat) : List Char :=
  let ds := Nat.toDigits 10 n
  List.replicate (width - ds.length) '0' ++ ds

/-- Date and time without the offset; the fraction has six digits and is left out when it is zero. -/
def localText (m : Moment) : List Char :=
  padded 4 m.year ++ '-' :: padded 2 m.month ++ '-' :: padded 2 m.day ++ 'T' :: padded 2 m.hour ++
    ':' :: padded 2 m.minute ++ ':' :: padded 2 m.second ++
    (if m.micro == 0 then [] else '.' :: padded 6 m.micro)

def offsetText (minutes : Int) : List Char :=
  (if minutes < 0 then '-' else '+') :: padded 2 (minutes.natAbs / 60) ++ ':' :: padded 2 (minutes.natAbs % 60)

def isoText (m : Moment) : String :=
  String.ofList (m.localText ++ (m.offset.map offsetText).getD [])

def jsonText (m : Moment) : String :=
  String.ofList (m.localText ++ match m.offset with
    | none => []
    | some minutes => if minutes == 0 then ['Z'] else offsetText minutes)

def stamp (m : Moment) : String :=
  String.ofList (Nat.toDigits 10 m.year ++ '-' :: padded 2 m.month ++ '-' :: padded 2 m.day ++ '-' ::
    (padded 2 m.hour ++ padded 2 m.minute ++ padded 2 m.second))

/-! ## Counting days -/

/-- Year, month and day that lie `days` days after the first of January 1970. -/
def dateOfDays (days : Int) : Int × Nat × Nat :=
  let z := days + 719468
  let era := Int.fdiv z 146097
  let dayOfEra := (z - era * 146097).toNat
  let yearOfEra := (dayOfEra - dayOfEra / 1460 + dayOfEra / 36524 - dayOfEra / 146096) / 365
  let dayOfYear := dayOfEra - (365 * yearOfEra + yearOfEra / 4 - yearOfEra / 100)
  let shifted := (5 * dayOfYear + 2) / 153
  let day := dayOfYear - (153 * shifted + 2) / 5 + 1
  let month := if shifted < 10 then shifted + 3 else shifted - 9
  let year := era * 400 + yearOfEra + (if month ≤ 2 then 1 else 0)
  (year, month, day)

/-- The moment `seconds` seconds and `micro` microseconds after the start of 1970, in universal time. -/
def ofSeconds (seconds : Int) (micro : Nat) : Moment :=
  let days := Int.fdiv seconds 86400
  let rest := (seconds - days * 86400).toNat
  let (year, month, day) := dateOfDays days
  { year := year.toNat, month, day, hour := rest / 3600, minute := rest / 60 % 60, second := rest % 60, micro,
    offset := some 0 }

/-- The moment a count from the start of 1970 names: seconds, or milliseconds when the count is beyond twenty
thousand million. Defined from the year 1600 to the year 9999. -/
def ofEpoch? (count : Int) (micro : Nat) : Option Moment :=
  let (seconds, own) : Int × Int :=
    if count.natAbs ≤ 20000000000 then (count, 0)
    else (Int.fdiv count 1000, (count - Int.fdiv count 1000 * 1000) * 1000)
  let total := own.toNat + micro
  let seconds := seconds + total / 1000000
  if seconds < -11676096000 || 253402300799 < seconds then none
  else some (ofSeconds seconds (total % 1000000))

end Moment

end SchemaConcord
