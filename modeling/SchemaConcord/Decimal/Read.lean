import SchemaConcord.Decimal.Binary
import SchemaConcord.Text.Case
import SchemaConcord.Text.Edit

/-!
# Reading decimal numbers

`readInteger?` reads a whole text as a whole number, `readDecimal?` as any number: blanks around it, a sign, decimal
digits of any script with single underscores between digits, a point, an exponent, or one of the words for the
infinities and the undefined value.
-/

namespace SchemaConcord

open Text

def natOfDigits (ds : List Char) : Nat := ds.foldl (fun n c => n * 10 + (digitValue? c).getD 0) 0

/-- Drops underscores that stand between two digits; `none` when one stands elsewhere. `digit` says whether the
character before was a digit. -/
def dropUnderscores? (digit : Bool) : List Char → Option (List Char)
  | [] => some []
  | c :: rest =>
    if c == '_' then
      if digit && (rest.head?.map isAsciiDigit).getD false then dropUnderscores? false rest else none
    else (dropUnderscores? (isAsciiDigit c) rest).map (c :: ·)

def asciiDigits (cs : List Char) : List Char :=
  cs.map fun c => if isBlank c then ' ' else match digitValue? c with
    | some n => Char.ofNat (48 + n)
    | none => c

def splitSign : List Char → Bool × List Char
  | '-' :: rest => (true, rest)
  | '+' :: rest => (false, rest)
  | cs => (false, cs)

/-- The unsigned part of a decimal number: whole digits, a fraction and an exponent, at least one digit in all. -/
def readUnsigned? (cs : List Char) : Option (Nat × Int) :=
  let whole := cs.takeWhile isAsciiDigit
  let rest := cs.dropWhile isAsciiDigit
  let (fraction, rest) := match rest with
    | '.' :: more => (more.takeWhile isAsciiDigit, more.dropWhile isAsciiDigit)
    | _ => ([], rest)
  if whole.isEmpty && fraction.isEmpty then none
  else
    let digits := natOfDigits (whole ++ fraction)
    let base : Int := -(fraction.length : Int)
    match rest with
    | [] => some (digits, base)
    | e :: more =>
      if e == 'e' || e == 'E' then
        let (negative, ds) := splitSign more
        if ds.isEmpty || !ds.all isAsciiDigit then none
        else
          let x : Int := natOfDigits ds
          some (digits, base + (if negative then -x else x))
      else none

def readDecimal? (s : String) : Option Binary64 := do
  let cs ← dropUnderscores? false (trim (· == ' ') (asciiDigits s.toList))
  let (negative, body) := splitSign cs
  let word := body.map asciiLower
  if word == "inf".toList || word == "infinity".toList then return .infinite negative
  if word == "nan".toList then return .nan
  let (digits, e) ← readUnsigned? body
  return .ofDecimal negative digits e

/-- The whole number a whole text stands for: a sign and digits of any script, with single underscores between. -/
def readInteger? (s : String) : Option Int := do
  let (negative, body) := splitSign (trim (· == ' ') (asciiDigits s.toList))
  let ds ← dropUnderscores? false body
  if ds.isEmpty || !ds.all isAsciiDigit then none
  let n : Int := natOfDigits ds
  return if negative then -n else n

end SchemaConcord
