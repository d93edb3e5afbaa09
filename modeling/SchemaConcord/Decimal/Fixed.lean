import SchemaConcord.Decimal.Binary

/-!
# Decimal texts of fixed length

A number with a fixed count of digits behind the point, the nearest such decimal; a tie goes to the even digit.
-/

namespace SchemaConcord.Binary64

/-- The nearest whole number of units of `10 ^ -places` to `m * 2 ^ q`. -/
def decimalUnits (places m : Nat) (q : Int) : Nat :=
  let n := m * Nat.pow 10 places
  if q < 0 then roundQuotient n (Nat.pow 2 (-q).toNat) else n * Nat.pow 2 q.toNat

def layoutFixed (places n : Nat) : String :=
  let digits := Nat.toDigits 10 n
  let padded := List.replicate (places + 1 - digits.length) '0' ++ digits
  let whole := padded.take (padded.length - places)
  String.ofList (if places = 0 then whole else whole ++ '.' :: padded.drop (padded.length - places))

def fixedText (places : Nat) : Binary64 → String
  | .nan => "nan"
  | .infinite s => if s then "-inf" else "inf"
  | .finite s m q => (if s then "-" else "") ++ layoutFixed places (decimalUnits places m q)

end SchemaConcord.Binary64
