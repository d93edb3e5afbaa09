import SchemaConcord.Text.Class

/-!
# Texts as bytes

Decoding of the eight-bit form of texts. `decode?` gives the text or the first fault, `decodeLeniently` puts the
replacement character in the place of every fault.
-/

namespace SchemaConcord.Text

def encode (cs : List Char) : List UInt8 := cs.flatMap String.utf8EncodeChar

inductive Utf8FaultKind where
  | start | continuation | ending
  deriving DecidableEq, Repr

structure Utf8Fault where
  position : Nat
  bytes : List UInt8
  kind : Utf8FaultKind
  deriving DecidableEq, Repr

def isContinuation (b : UInt8) : Bool := 128 ≤ b && b < 192

def allowsSecond (first second : UInt8) : Bool :=
  isContinuation second && !(first == 224 && second < 160) && !(first == 237 && 160 ≤ second) &&
    !(first == 240 && second < 144) && !(first == 244 && 144 ≤ second)

def tailLength? (first : UInt8) : Option Nat :=
  if first < 128 then some 0
  else if 194 ≤ first && first < 224 then some 1
  else if 224 ≤ first && first < 240 then some 2
  else if 240 ≤ first && first < 245 then some 3
  else none

/-- The number of bytes at the head of `rest` that can follow `first`. -/
def validTail (first : UInt8) (rest : List UInt8) : Nat :=
  match rest with
  | [] => 0
  | second :: more => if allowsSecond first second then 1 + (more.takeWhile isContinuation).length else 0

def codePoint (first : UInt8) (tail : List UInt8) : Nat :=
  let head := match tail.length with
    | 0 => first.toNat
    | 1 => first.toNat - 192
    | 2 => first.toNat - 224
    | _ => first.toNat - 240
  tail.foldl (fun n b => n * 64 + (b.toNat - 128)) head

/-- One character, or a fault with the number of its bytes, and the number of bytes behind the first that are used
up. -/
def decodeOne (first : UInt8) (rest : List UInt8) : Except Utf8FaultKind Char × Nat :=
  match tailLength? first with
  | none => (.error .start, 0)
  | some n =>
    let valid := min n (validTail first rest)
    if valid == n then (.ok (Char.ofNat (codePoint first (rest.take n))), n)
    else if valid == rest.length then (.error .ending, valid)
    else (.error .continuation, valid)

def decodeFrom : Nat → Nat → List UInt8 → Except Utf8Fault (List Char)
  | 0, _, _ => .ok []
  | _, _, [] => .ok []
  | fuel + 1, position, b :: rest =>
    match decodeOne b rest with
    | (.ok c, n) => (c :: ·) <$> decodeFrom fuel (position + 1 + n) (rest.drop n)
    | (.error kind, n) => .error ⟨position, b :: rest.take n, kind⟩

def decode? (bytes : List UInt8) : Except Utf8Fault String := String.ofList <$> decodeFrom bytes.length 0 bytes

def decodeLenientlyFrom : Nat → List UInt8 → List Char
  | 0, _ => []
  | _, [] => []
  | fuel + 1, b :: rest =>
    match decodeOne b rest with
    | (.ok c, n) => c :: decodeLenientlyFrom fuel (rest.drop n)
    | (.error _, n) => Char.ofNat 65533 :: decodeLenientlyFrom fuel (rest.drop n)

def decodeLeniently (bytes : List UInt8) : List Char := decodeLenientlyFrom bytes.length bytes

namespace Utf8Fault

def hexByte (b : UInt8) : String :=
  String.ofList (List.replicate (2 - (Nat.toDigits 16 b.toNat).length) '0' ++ Nat.toDigits 16 b.toNat)

def message (f : Utf8Fault) : String :=
  let place := match f.bytes with
    | [b] => "byte 0x" ++ hexByte b ++ " in position " ++ toString f.position
    | bytes => "bytes in position " ++ toString f.position ++ "-" ++ toString (f.position + bytes.length - 1)
  let reason := match f.kind with
    | .start => "invalid start byte"
    | .continuation => "invalid continuation byte"
    | .ending => "unexpected end of data"
  "'utf-8' codec can't decode " ++ place ++ ": " ++ reason

end Utf8Fault

end SchemaConcord.Text
