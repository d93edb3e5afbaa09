import SchemaConcord.Text.CaseTable
import SchemaConcord.Text.Class

/-!
# Letter case

The full Unicode case maps on texts. Lowercasing looks at the neighbours of a capital sigma only: it takes the
final form after a cased character when no cased character follows, case-ignorable characters not counting.
-/

namespace SchemaConcord.Text

def runImage? (runs : Array (Nat × Nat × Nat × Nat)) (n : Nat) : Option Nat :=
  (runs.find? fun (first, last, step, _) => first ≤ n && n ≤ last && (n - first) % step == 0).map
    fun (first, _, _, image) => n - first + image

def asciiLower (c : Char) : Char := if isAsciiUpper c then Char.ofNat (c.toNat + 32) else c

def asciiUpper (c : Char) : Char := if isAsciiLower c then Char.ofNat (c.toNat - 32) else c

/-- The lowercase character of one character; the capital I with a dot goes to the plain small letter. -/
def lowerChar (c : Char) : Char :=
  if isAscii c then asciiLower c
  else if c.toNat == 304 then 'i'
  else (runImage? lowerRuns c.toNat).elim c Char.ofNat

def upperChars (c : Char) : List Char :=
  if isAscii c then [asciiUpper c]
  else match upperExpansions.find? (·.1 == c.toNat) with
    | some (_, image) => image.map Char.ofNat
    | none => [(runImage? upperRuns c.toNat).elim c Char.ofNat]

def isCased (c : Char) : Bool :=
  if isAscii c then isAsciiLetter c else inRanges casedRanges c.toNat

def isCaseIgnorable (c : Char) : Bool :=
  if isAscii c then c == '\'' || c == '.' || c == ':' || c == '^' || c.toNat == 96
  else inRanges caseIgnorableRanges c.toNat

def startsCased (cs : List Char) : Bool := ((cs.dropWhile isCaseIgnorable).head?.map isCased).getD false

/-- Lowercase of `cs`, where `before` holds the characters to the left, nearest first. -/
def lowerFrom (before : List Char) : List Char → List Char
  | [] => []
  | c :: rest =>
    let image :=
      if c.toNat == 931 then [if startsCased before && !startsCased rest then 'ς' else 'σ']
      else if c.toNat == 304 then ['i', '\u0307']
      else [lowerChar c]
    image ++ lowerFrom (c :: before) rest

def lower (cs : List Char) : List Char := lowerFrom [] cs

def upper (cs : List Char) : List Char := cs.flatMap upperChars

def lowercase (s : String) : String := String.ofList (lower s.toList)

def uppercase (s : String) : String := String.ofList (upper s.toList)

/-- Equality of characters where letter case does not count: the same lowercase character, or one of the two
foreign spellings of a small ASCII letter (the dotless i and the long s). -/
def sameLetter (a b : Char) : Bool :=
  let fold (c : Char) : Char :=
    let c := lowerChar c
    if c.toNat == 305 then 'i' else if c.toNat == 383 then 's' else c
  fold a == fold b

end SchemaConcord.Text
