import SchemaConcord.Decimal.Binary

/-!
# Shortest decimal texts

A finite number is written with the fewest significant digits that read back as the same number, the nearest such
decimal when there are several. `shortest` finds the digits by testing, for each digit count, the two neighbours
of the value on that decimal grid against the interval of reals that round to it. `Binary64.text` lays them out:
positional from `0.0001` up to sixteen digits before the point, with an exponent of two digits or more elsewhere.
-/

namespace SchemaConcord.Binary64

/-- The greatest `e` with `10 ^ e ≤ a / b`, searched upwards from a lower bound. -/
def decimalExponent (a b : Nat) : Int :=
  let guess : Int := (Int.ofNat a.log2 - Int.ofNat b.log2 - 1) * 30103 / 100000 - 1
  let fits (e : Int) : Bool := if 0 ≤ e then b * Nat.pow 10 e.toNat ≤ a else b ≤ a * Nat.pow 10 (-e).toNat
  if fits (guess + 3) then guess + 3
  else if fits (guess + 2) then guess + 2
  else if fits (guess + 1) then guess + 1
  else guess

/-- The interval of reals that round to `m * 2 ^ q`, with the value in its middle part, all over the denominator
`den`: lower end, value, upper end. -/
structure Interval where
  low : Nat
  value : Nat
  high : Nat
  den : Nat
  closed : Bool

def interval (m : Nat) (q : Int) : Interval :=
  let narrow := m == Nat.pow 2 52 && q != -1074
  let up : Nat := if 0 ≤ q then Nat.pow 2 q.toNat else 1
  let den : Nat := if 0 ≤ q then 4 else 4 * Nat.pow 2 (-q).toNat
  { low := (4 * m - (if narrow then 1 else 2)) * up
    value := 4 * m * up
    high := (4 * m + 2) * up
    den := den
    closed := m % 2 == 0 }

def Interval.holds (i : Interval) (d : Nat) (s : Int) : Bool :=
  let (d, k) := if 0 ≤ s then (d * Nat.pow 10 s.toNat * i.den, 1) else (d * i.den, Nat.pow 10 (-s).toNat)
  if i.closed then i.low * k ≤ d && d ≤ i.high * k else i.low * k < d && d < i.high * k

/-- The nearest decimal of the interval on the grid of step `10 ^ s`. -/
def Interval.onGrid? (i : Interval) (s : Int) : Option Nat :=
  let (a, b) := if 0 ≤ s then (i.value, i.den * Nat.pow 10 s.toNat) else (i.value * Nat.pow 10 (-s).toNat, i.den)
  let d := a / b
  let r := a % b
  let below := i.holds d s
  let above := i.holds (d + 1) s
  if below && above then some (if b < 2 * r || (2 * r == b && d % 2 == 1) then d + 1 else d)
  else if below then some d
  else if above then some (d + 1)
  else none

def stripZeros (d : Nat) (e : Int) : Nat × Int :=
  if h : d = 0 then (0, 0)
  else if d % 10 = 0 then stripZeros (d / 10) (e + 1)
  else (d, e)
termination_by d
decreasing_by omega

/-- Digits and exponent of the shortest decimal that reads back as `m * 2 ^ q`. -/
def shortest (m : Nat) (q : Int) : Nat × Int :=
  let i := interval m q
  let top := decimalExponent i.value i.den
  let found := (List.range 17).findSome? fun (n : Nat) =>
    let s := top - (n : Int)
    (i.onGrid? s).map fun d => (d, s)
  match found with
  | some (d, s) => stripZeros d s
  | none => (0, 0)

/-- Digits with a point or an exponent: `digits * 10 ^ e`, the point standing `place` digits from the left. -/
def layout (digits : List Char) (e : Int) : List Char :=
  let place : Int := digits.length + e
  if -4 < place && place ≤ 16 then
    if place ≤ 0 then '0' :: '.' :: (List.replicate (-place).toNat '0' ++ digits)
    else if 0 ≤ e then digits ++ List.replicate e.toNat '0' ++ ['.', '0']
    else digits.take place.toNat ++ '.' :: digits.drop place.toNat
  else
    let x := place - 1
    let power := Nat.toDigits 10 x.natAbs
    let power := if power.length < 2 then '0' :: power else power
    let mantissa := match digits with
      | [d] => [d]
      | d :: rest => d :: '.' :: rest
      | [] => []
    mantissa ++ ['e', if x < 0 then '-' else '+'] ++ power

def text : Binary64 → String
  | .nan => "nan"
  | .infinite s => if s then "-inf" else "inf"
  | .finite s m q =>
    let sign := if s then "-" else ""
    if m == 0 then sign ++ "0.0"
    else
      let (d, e) := shortest m q
      sign ++ String.ofList (layout (Nat.toDigits 10 d) e)

end SchemaConcord.Binary64
