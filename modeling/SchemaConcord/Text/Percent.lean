import SchemaConcord.Text.Edit
import SchemaConcord.Text.Utf8

/-!
# Percent encoding

`percentEncode` writes every byte of a character that is neither plain nor declared safe as a percent sign and two
hexadecimal digits; `percentDecode` reads such digits back. Percent signs without two digits stand for themselves.
-/

namespace SchemaConcord.Text

def isPlain (c : Char) : Bool := isAsciiLetter c || isAsciiDigit c || ['_', '.', '-', '~'].contains c

def upperHexDigit (n : Nat) : Char := Char.ofNat (if n < 10 then 48 + n else 55 + n)

def percentByte (b : UInt8) : List Char := ['%', upperHexDigit (b.toNat / 16), upperHexDigit (b.toNat % 16)]

def percentEncode (safe : List Char) (s : String) : String :=
  String.ofList (s.toList.flatMap fun c =>
    if isPlain c || safe.contains c then [c] else (String.utf8EncodeChar c).flatMap percentByte)

def formEncode (s : String) : String := replaceText " " "+" (percentEncode [' '] s)

def percentBytes : Nat → List Char → List UInt8
  | 0, _ => []
  | _, [] => []
  | fuel + 1, '%' :: a :: b :: rest =>
    match hexValue? a, hexValue? b with
    | some x, some y => UInt8.ofNat (16 * x + y) :: percentBytes fuel rest
    | _, _ => 37 :: percentBytes fuel (a :: b :: rest)
  | fuel + 1, c :: rest => UInt8.ofNat c.toNat :: percentBytes fuel rest

def runsOf (p : Char → Bool) : List Char → List (List Char)
  | [] => []
  | c :: rest =>
    match runsOf p rest with
    | (d :: run) :: runs => if p c == p d then (c :: d :: run) :: runs else [c] :: (d :: run) :: runs
    | runs => [c] :: runs

/-- Decodes every run of ASCII characters by itself; bytes that are no text become replacement characters. -/
def percentDecode (s : String) : String :=
  String.ofList ((runsOf isAscii s.toList).flatMap fun run =>
    if run.all isAscii then decodeLeniently (percentBytes run.length run) else run)

end SchemaConcord.Text
