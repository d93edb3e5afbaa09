import SchemaConcord.Text.WordTable
import SchemaConcord.Text.NameTable
import SchemaConcord.Text.PrintTable

/-!
# Character classes

The classes that names, types, patterns and quoted texts are read with: blanks, word characters, decimal
digits, identifier characters and printable characters, all over the whole of Unicode.
-/

namespace SchemaConcord.Text

def inRanges (table : Array (Nat × Nat)) (n : Nat) : Bool :=
  table.any fun r => r.1 ≤ n && n ≤ r.2

/-- Blank characters: the Unicode white space together with the four ASCII information separators. -/
def isBlank (c : Char) : Bool :=
  let n := c.toNat
  (9 ≤ n && n ≤ 13) || (28 ≤ n && n ≤ 32) || n == 133 || n == 160 || n == 5760 || (8192 ≤ n && n ≤ 8202) ||
    n == 8232 || n == 8233 || n == 8239 || n == 8287 || n == 12288

def isAsciiUpper (c : Char) : Bool := 'A' ≤ c && c ≤ 'Z'

def isAsciiLower (c : Char) : Bool := 'a' ≤ c && c ≤ 'z'

def isAsciiDigit (c : Char) : Bool := '0' ≤ c && c ≤ '9'

def isAsciiLetter (c : Char) : Bool := isAsciiUpper c || isAsciiLower c

def isAscii (c : Char) : Bool := c.toNat < 128

def isAlphanumeric (c : Char) : Bool :=
  if isAscii c then isAsciiLetter c || isAsciiDigit c else inRanges alphanumericRanges c.toNat

def isWord (c : Char) : Bool := c == '_' || isAlphanumeric c

def digitValue? (c : Char) : Option Nat :=
  if isAsciiDigit c then some (c.toNat - 48)
  else (decimalRanges.find? fun r => r.1 ≤ c.toNat && c.toNat ≤ r.2).map fun r => (c.toNat - r.1) % 10

def isDecimal (c : Char) : Bool := (digitValue? c).isSome

def hexValue? (c : Char) : Option Nat :=
  if isAsciiDigit c then some (c.toNat - 48)
  else if 'a' ≤ c && c ≤ 'f' then some (c.toNat - 87)
  else if 'A' ≤ c && c ≤ 'F' then some (c.toNat - 55)
  else none

def isNameStart (c : Char) : Bool :=
  if isAscii c then isAsciiLetter c || c == '_' else inRanges nameStartRanges c.toNat

def isNamePart (c : Char) : Bool :=
  if isAscii c then isAsciiLetter c || c == '_' || isAsciiDigit c else inRanges namePartRanges c.toNat

/-- An identifier starts with a name-start character and goes on with name-part characters. -/
def isIdentifier : List Char → Bool
  | [] => false
  | c :: r => isNameStart c && r.all isNamePart

def isPrintable (c : Char) : Bool :=
  if isAscii c then 32 ≤ c.toNat && c.toNat < 127 else inRanges printableRanges c.toNat

end SchemaConcord.Text
