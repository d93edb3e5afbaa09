import SchemaConcord.Text.Edit

/-!
# Blanks, comments, strings and keys of TOML

A line may hold any characters but control characters, of which only the tab is allowed. Strings between double
quotes have escapes, those between single quotes have none; either kind may span lines when its quotes are tripled.
-/

namespace SchemaConcord.Toml

open Text

def isSpace (c : Char) : Bool := c == ' ' || c == '\t'

def isSpaceOrLineEnd (c : Char) : Bool := isSpace c || c == '\n'

def skipSpaces (cs : List Char) : List Char := cs.dropWhile isSpace

def isPlain (c : Char) : Bool := c == '\t' || (32 ≤ c.toNat && c.toNat != 127)

/-- What follows a comment, if there is one: the end of its line. -/
def afterComment? : List Char → Option (List Char)
  | '#' :: rest => if (rest.takeWhile (· != '\n')).all isPlain then some (rest.dropWhile (· != '\n')) else none
  | cs => some cs

/-- What follows blank lines and comments; `fuel` bounds their number. -/
def afterLines? : Nat → List Char → Option (List Char)
  | 0, cs => some cs
  | fuel + 1, cs =>
    match cs.dropWhile isSpaceOrLineEnd with
    | '#' :: rest => (afterComment? ('#' :: rest)).bind (afterLines? fuel)
    | cs => some cs

/-! ## Strings -/

def hexValue? (c : Char) : Option Nat :=
  if '0' ≤ c && c ≤ '9' then some (c.toNat - 48)
  else if 'a' ≤ c && c ≤ 'f' then some (c.toNat - 87)
  else if 'A' ≤ c && c ≤ 'F' then some (c.toNat - 55)
  else none

/-- The character that exactly `n` hexadecimal digits stand for. -/
def coded? (n : Nat) (cs : List Char) : Option (Char × List Char) := do
  let ds ← (cs.take n).mapM hexValue?
  let code := ds.foldl (fun a d => a * 16 + d) 0
  if ds.length = n && (code < 55296 || (57344 ≤ code && code < 1114112)) then some (Char.ofNat code, cs.drop n) else none

def escape? : List Char → Option (Char × List Char)
  | 'b' :: rest => some (Char.ofNat 8, rest)
  | 't' :: rest => some ('\t', rest)
  | 'n' :: rest => some ('\n', rest)
  | 'f' :: rest => some (Char.ofNat 12, rest)
  | 'r' :: rest => some ('\r', rest)
  | '"' :: rest => some ('"', rest)
  | '\\' :: rest => some ('\\', rest)
  | 'u' :: rest => coded? 4 rest
  | 'U' :: rest => coded? 8 rest
  | _ => none

/-- A string with escapes on one line, up to its closing quote; `fuel` bounds its length. -/
def basic? : Nat → List Char → Option (List Char × List Char)
  | 0, _ => none
  | fuel + 1, cs =>
    match cs with
    | [] => none
    | '"' :: rest => some ([], rest)
    | '\\' :: rest => do
      let (c, rest) ← escape? rest
      let (s, tail) ← basic? fuel rest
      return (c :: s, tail)
    | c :: rest =>
      if isPlain c then do
        let (s, tail) ← basic? fuel rest
        return (c :: s, tail)
      else none

/-- Up to two quotes that stand right before closing ones belong to the string. -/
def closing (quote : Char) : List Char → List Char × List Char
  | a :: b :: rest =>
    if a == quote then (if b == quote then ([a, b], rest) else ([a], b :: rest)) else ([], a :: b :: rest)
  | [a] => if a == quote then ([a], []) else ([], [a])
  | [] => ([], [])

/-- What follows a backslash at the end of a line: the blanks and line ends after it do not count. -/
def continued? (cs : List Char) : Option (List Char) :=
  match skipSpaces cs with
  | '\n' :: rest => some (rest.dropWhile isSpaceOrLineEnd)
  | _ => none

def basicLines? : Nat → List Char → Option (List Char × List Char)
  | 0, _ => none
  | fuel + 1, cs =>
    match cs with
    | [] => none
    | '"' :: '"' :: '"' :: rest => some (closing '"' rest)
    | '\\' :: c :: rest =>
      if isSpaceOrLineEnd c then (continued? (c :: rest)).bind (basicLines? fuel)
      else do
        let (c, rest) ← escape? (c :: rest)
        let (s, tail) ← basicLines? fuel rest
        return (c :: s, tail)
    | c :: rest =>
      if c != '\\' && (isPlain c || c == '\n') then do
        let (s, tail) ← basicLines? fuel rest
        return (c :: s, tail)
      else none

def literal? (cs : List Char) : Option (List Char × List Char) :=
  let s := cs.takeWhile (· != '\'')
  match cs.dropWhile (· != '\'') with
  | _ :: rest => if s.all isPlain then some (s, rest) else none
  | [] => none

def literalLines? : List Char → Option (List Char × List Char)
  | [] => none
  | '\'' :: '\'' :: '\'' :: rest => some (closing '\'' rest)
  | c :: rest =>
    if isPlain c || c == '\n' then (literalLines? rest).map fun (s, tail) => (c :: s, tail) else none

def dropFirstLineEnd : List Char → List Char
  | '\n' :: rest => rest
  | cs => cs

def string? : List Char → Option (List Char × List Char)
  | '"' :: '"' :: '"' :: rest => basicLines? (rest.length + 1) (dropFirstLineEnd rest)
  | '"' :: rest => basic? (rest.length + 1) rest
  | '\'' :: '\'' :: '\'' :: rest => literalLines? (dropFirstLineEnd rest)
  | '\'' :: rest => literal? rest
  | _ => none

/-! ## Keys -/

def isKeyChar (c : Char) : Bool := isAsciiLetter c || isAsciiDigit c || c == '-' || c == '_'

def keyPart? : List Char → Option (List Char × List Char)
  | '"' :: rest => basic? (rest.length + 1) rest
  | '\'' :: rest => literal? rest
  | cs => if (cs.takeWhile isKeyChar).isEmpty then none else some (cs.takeWhile isKeyChar, cs.dropWhile isKeyChar)

/-- The parts of a key that points join, and what follows the blanks after it. -/
def key? : Nat → List Char → Option (List String × List Char)
  | 0, _ => none
  | fuel + 1, cs => do
    let (part, rest) ← keyPart? cs
    match skipSpaces rest with
    | '.' :: more => do
      let (parts, tail) ← key? fuel (skipSpaces more)
      return (String.ofList part :: parts, tail)
    | tail => return ([String.ofList part], tail)

end SchemaConcord.Toml
