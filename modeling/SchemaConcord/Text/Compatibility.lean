import SchemaConcord.Text.Case
import SchemaConcord.Text.CompatibilityTable
import SchemaConcord.Text.Edit

/-!
# One form for equal identifiers

Identifiers that differ only by compatibility characters, such as ligatures and full-width letters, or by the way
accents are attached, are one identifier. `Text.compatible` brings a text to its composed compatibility form:
decompose, put combining marks in order, compose again.
-/

namespace SchemaConcord.Text

def hexNumber (cs : List Char) : Nat := cs.foldl (fun n c => n * 16 + (hexValue? c).getD 0) 0

/-- The rows of a table text; line breaks between rows do not count. -/
def tableRows (s : String) : List (List Nat) :=
  (splitAt (· == ',') s.toList).map fun row => (splitAt (· == ' ') (trim isBlank row)).map hexNumber

def quadruple? : List Nat → Option (Nat × Nat × Nat × Nat)
  | [a, b, c, d] => some (a, b, c, d)
  | _ => none

def triple? : List Nat → Option (Nat × Nat × Nat)
  | [a, b, c] => some (a, b, c)
  | _ => none

def headed? : List Nat → Option (Nat × List Nat)
  | a :: rest => some (a, rest)
  | [] => none

def decompositionRuns : Array (Nat × Nat × Nat × Nat) :=
  ((tableRows decompositionRunText).filterMap quadruple?).toArray

def decompositions : Array (Nat × List Nat) := ((tableRows decompositionText).filterMap headed?).toArray

def compositions : Array (Nat × Nat × Nat) := ((tableRows compositionText).filterMap triple?).toArray

def combiningClasses : Array (Nat × Nat × Nat) := ((tableRows combiningClassText).filterMap triple?).toArray

def combiningClass (c : Char) : Nat :=
  if isAscii c then 0
  else ((combiningClasses.find? fun (low, high, _) => low ≤ c.toNat && c.toNat ≤ high).map (·.2.2)).getD 0

/-- The full decomposition of one character; a Hangul syllable goes to its two or three letters. -/
def decompose (c : Char) : List Char :=
  let n := c.toNat
  if isAscii c then [c]
  else if 44032 ≤ n && n ≤ 55203 then
    let s := n - 44032
    let tail := s % 28
    [Char.ofNat (4352 + s / 588), Char.ofNat (4449 + s % 588 / 28)] ++
      (if tail == 0 then [] else [Char.ofNat (4519 + tail)])
  else match decompositions.find? (·.1 == n) with
    | some (_, image) => image.map Char.ofNat
    | none => [(runImage? decompositionRuns n).elim c Char.ofNat]

/-- Inserts a mark into a reversed text, before the marks at its end that have a greater class. -/
def insertMark (c : Char) : List Char → List Char
  | [] => [c]
  | d :: rest => if combiningClass c < combiningClass d then d :: insertMark c rest else c :: d :: rest

/-- Marks between two characters of class zero in the order of their classes. -/
def orderMarks (cs : List Char) : List Char :=
  (cs.foldl (fun done c => if combiningClass c == 0 then c :: done else insertMark c done) []).reverse

def compose? (a b : Char) : Option Char :=
  let x := a.toNat
  let y := b.toNat
  if 4352 ≤ x && x < 4371 && 4449 ≤ y && y < 4470 then
    some (Char.ofNat (44032 + ((x - 4352) * 21 + (y - 4449)) * 28))
  else if 44032 ≤ x && x ≤ 55203 && (x - 44032) % 28 == 0 && 4519 < y && y < 4547 then
    some (Char.ofNat (x + (y - 4519)))
  else (compositions.find? fun (p, q, _) => p == x && q == y).map fun (_, _, r) => Char.ofNat r

/-- Composes from left to right: `base` is the last character of class zero, `marks` the marks after it that did not
compose with it, last one first. -/
def composeFrom (base : Option Char) (marks : List Char) : List Char → List Char
  | [] => base.toList ++ marks.reverse
  | c :: rest =>
    let free := match marks with
      | [] => true
      | m :: _ => combiningClass m < combiningClass c
    match base, if free then base.bind (compose? · c) else none with
    | some _, some d => composeFrom (some d) marks rest
    | base, _ =>
      if combiningClass c == 0 then base.toList ++ marks.reverse ++ composeFrom (some c) [] rest
      else match base with
        | some _ => composeFrom base (c :: marks) rest
        | none => c :: composeFrom none [] rest

def compatible (cs : List Char) : List Char :=
  if cs.all isAscii then cs else composeFrom none [] (orderMarks (cs.flatMap decompose))

end SchemaConcord.Text
