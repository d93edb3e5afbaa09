import SchemaConcord.Markup.ReferenceTable
import SchemaConcord.Text.Compatibility

/-!
# Character references

A reference in an attribute value stands for a character: by number, decimal or hexadecimal, or by name. `expand`
replaces every reference of a text. A semicolon ends a reference but may be missing after a number and after some
names; of several names that fit, the longest one counts.
-/

namespace SchemaConcord.Markup

open Text

def namedRow? (row : List Char) : Option (String × String) :=
  match splitAt (· == ' ') (trim isBlank row) with
  | name :: codes => some (String.ofList name, String.ofList (codes.map fun c => Char.ofNat (hexNumber c)))
  | [] => none

def namedRows (s : String) : List (String × String) := (splitAt (· == ',') s.toList).filterMap namedRow?

def openNames : List (String × String) := namedRows openNameText

def closedNames : List (String × String) := namedRows closedNameText

/-- Characters of the Western code page that numbers from 128 to 159 stand for. -/
def codePageText : String := "€\x81‚ƒ„…†‡ˆ‰Š‹Œ\x8dŽ\x8f\x90‘’“”•–—˜™š›œ\x9džŸ"

/-- Code points that no reference may stand for: control characters other than blanks, and noncharacters. -/
def isRefused (n : Nat) : Bool :=
  (1 ≤ n && n ≤ 8) || n == 11 || (14 ≤ n && n ≤ 31) || (127 ≤ n && n ≤ 159) || (64976 ≤ n && n ≤ 65007) ||
    65534 ≤ n % 65536

def numbered (n : Nat) : List Char :=
  if n == 0 then [Char.ofNat 65533]
  else if 128 ≤ n && n ≤ 159 then (codePageText.toList.drop (n - 128)).take 1
  else if (55296 ≤ n && n ≤ 57343) || 1114111 < n then [Char.ofNat 65533]
  else if isRefused n then []
  else [Char.ofNat n]

def afterSemicolon : List Char → List Char
  | ';' :: rest => rest
  | cs => cs

def isReferenceChar (c : Char) : Bool := !(['\t', '\n', '\x0c', ' ', '<', '&', '#', ';'].contains c)

/-- The longest proper head of a word that is a name, with what follows it; a name has two characters or more. -/
def longestName? (word : List Char) : Nat → Option (List Char)
  | 0 | 1 => none
  | n + 2 =>
    match openNames.lookup (String.ofList (word.take (n + 2))) with
    | some image => some (image.toList ++ word.drop (n + 2))
    | none => longestName? word (n + 1)

/-- The text that a name stands for, a name that is not known being left as it is. `closed` says that a semicolon
follows. -/
def named (word : List Char) (closed : Bool) : List Char :=
  let whole := String.ofList word
  let known := if closed then closedNames.lookup whole <|> openNames.lookup whole else openNames.lookup whole
  let written := if closed then word ++ [';'] else word
  match known with
  | some image => image.toList
  | none => (longestName? written (written.length - 1)).getD ('&' :: written)

/-- The text for a reference after its `&`, and the rest of the text. -/
def reference? (cs : List Char) : Option (List Char × List Char) :=
  match cs with
  | '#' :: x :: rest =>
    let digits := if x == 'x' || x == 'X' then rest.takeWhile fun c => (hexValue? c).isSome
      else (x :: rest).takeWhile isAsciiDigit
    let number := if x == 'x' || x == 'X' then hexNumber digits else natOfText digits
    let after := (if x == 'x' || x == 'X' then rest else x :: rest).drop digits.length
    if digits.isEmpty then none else some (numbered number, afterSemicolon after)
  | _ =>
    let word := (cs.takeWhile isReferenceChar).take 32
    let after := cs.drop word.length
    if word.isEmpty then none else some (named word (after.head? == some ';'), afterSemicolon after)
where
  natOfText (ds : List Char) : Nat := ds.foldl (fun n c => n * 10 + (c.toNat - 48)) 0

def expandFrom : Nat → List Char → List Char
  | 0, cs => cs
  | _, [] => []
  | n + 1, c :: rest =>
    if c == '&' then
      match reference? rest with
      | some (image, after) => image ++ expandFrom n after
      | none => c :: expandFrom n rest
    else c :: expandFrom n rest

/-- Replaces every reference by what it stands for; every step uses up a character. -/
def expand (cs : List Char) : List Char := expandFrom cs.length cs

end SchemaConcord.Markup
