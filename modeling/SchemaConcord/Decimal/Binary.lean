/-!
# Binary floating-point numbers

`Binary64` holds the values of the 64-bit binary format: a finite value is a mantissa below `2 ^ 53` times a power
of two whose exponent runs from -1074 to 971. Every operation computes the exact ratio and rounds it once, to the
nearest value, a tie going to the even mantissa.
-/

namespace SchemaConcord

/-- A 64-bit binary number; `finite s m q` is `m * 2 ^ q`, negated when `s` holds. -/
inductive Binary64 where
  | nan
  | infinite (negative : Bool)
  | finite (negative : Bool) (mantissa : Nat) (exponent : Int)
  deriving DecidableEq, Repr, Inhabited

inductive WholeFault where
  | infinite | undefined
  deriving DecidableEq, Repr

def WholeFault.message : WholeFault → String
  | .infinite => "cannot convert float infinity to integer"
  | .undefined => "cannot convert float NaN to integer"

namespace Binary64

def zero (negative : Bool) : Binary64 := .finite negative 0 (-1074)

/-- The quotient rounded to a whole number, a half going to the even neighbour. -/
def roundQuotient (a b : Nat) : Nat :=
  let q := a / b
  let r := a % b
  if b < 2 * r || (2 * r == b && q % 2 == 1) then q + 1 else q

/-- `num / den` as a quotient of natural numbers in units of `2 ^ e`. -/
def scaled (num den : Nat) (e : Int) : Nat × Nat :=
  if e < 0 then (num * Nat.pow 2 (-e).toNat, den) else (num, den * Nat.pow 2 e.toNat)

def ofRatio (negative : Bool) (num den : Nat) : Binary64 :=
  if num == 0 then zero negative
  else
    let guess : Int := max (Int.ofNat num.log2 - Int.ofNat den.log2 - 53) (-1074)
    let (a, b) := scaled num den guess
    let e := if Nat.pow 2 53 ≤ a / b then guess + 1 else guess
    let (a, b) := scaled num den e
    let m := roundQuotient a b
    let (m, e) := if m == Nat.pow 2 53 then (Nat.pow 2 52, e + 1) else (m, e)
    if 971 < e then .infinite negative else .finite negative m e

def ofDecimal (negative : Bool) (digits : Nat) (e : Int) : Binary64 :=
  let size : Int := (Nat.toDigits 10 digits).length
  if digits == 0 || size + e < -400 then zero negative
  else if 400 < size + e then .infinite negative
  else if e < 0 then ofRatio negative digits (Nat.pow 10 (-e).toNat)
  else ofRatio negative (digits * Nat.pow 10 e.toNat) 1

def ofInt (n : Int) : Binary64 := ofRatio (n < 0) n.natAbs 1

def isFinite : Binary64 → Bool
  | .finite .. => true
  | _ => false

def isZero : Binary64 → Bool
  | .finite _ m _ => m == 0
  | _ => false

def isNegative : Binary64 → Bool
  | .nan => false
  | .infinite s => s
  | .finite s _ _ => s

/-! ## Exact whole parts -/

def units (negative : Bool) (m : Nat) (q : Int) : Int :=
  let n : Int := m * Int.pow 2 (q + 1074).toNat
  if negative then -n else n

def toInt? : Binary64 → Option Int
  | .finite s m q =>
    let n := units s m q
    if n % Int.pow 2 1074 == 0 then some (n / Int.pow 2 1074) else none
  | _ => none

def whole : Binary64 → Except WholeFault Int
  | .nan => .error .undefined
  | .infinite _ => .error .infinite
  | .finite s m q => .ok (Int.tdiv (units s m q) (Int.pow 2 1074))

/-! ## Arithmetic -/

def ofScaled (n : Int) (k : Nat) : Binary64 := ofRatio (n < 0) n.natAbs (Nat.pow 2 k)

def negate : Binary64 → Binary64
  | .nan => .nan
  | .infinite s => .infinite (!s)
  | .finite s m q => .finite (!s) m q

def add : Binary64 → Binary64 → Binary64
  | .nan, _ => .nan
  | _, .nan => .nan
  | .infinite s, .infinite t => if s == t then .infinite s else .nan
  | .infinite s, _ => .infinite s
  | _, .infinite t => .infinite t
  | .finite s m q, .finite t n r =>
    let sum := units s m q + units t n r
    if sum == 0 then zero (s && t) else ofScaled sum 1074

def sub (a b : Binary64) : Binary64 := add a (negate b)

def mul : Binary64 → Binary64 → Binary64
  | .finite s m q, .finite t n r =>
    let e := q + r
    if 0 ≤ e then ofRatio (s != t) (m * n * Nat.pow 2 e.toNat) 1 else ofRatio (s != t) (m * n) (Nat.pow 2 (-e).toNat)
  | .nan, _ => .nan
  | _, .nan => .nan
  | a, b => if a.isZero || b.isZero then .nan else .infinite (a.isNegative != b.isNegative)

def div : Binary64 → Binary64 → Binary64
  | .finite s m q, .finite t n r =>
    if n == 0 then (if m == 0 then .nan else .infinite (s != t))
    else
      let e := q - r
      if 0 ≤ e then ofRatio (s != t) (m * Nat.pow 2 e.toNat) n else ofRatio (s != t) m (n * Nat.pow 2 (-e).toNat)
  | .nan, _ => .nan
  | _, .nan => .nan
  | .infinite _, .infinite _ => .nan
  | .infinite s, b => .infinite (s != b.isNegative)
  | a, .infinite t => zero (a.isNegative != t)

/-- Rounds to `places` decimal places, a half of the exact value going to the even digit, then to the nearest
number. -/
def roundPlaces (places : Nat) : Binary64 → Binary64
  | .finite s m q =>
    let n := m * Nat.pow 10 places
    let (a, b) := if q < 0 then (n, Nat.pow 2 (-q).toNat) else (n * Nat.pow 2 q.toNat, 1)
    ofDecimal s (roundQuotient a b) (-places)
  | x => x

/-- Strict order of numbers; nothing is below or above the undefined value. -/
def lt : Binary64 → Binary64 → Bool
  | .nan, _ => false
  | _, .nan => false
  | .infinite s, b => s && b != .infinite true
  | a, .infinite t => !t && a != .infinite false
  | .finite s m q, .finite t n r => units s m q < units t n r

end Binary64

end SchemaConcord
