import SchemaConcord.Text.Class

/-!
# String literals

The text that the characters between the quotes of a literal stand for: `unescape?` reads the backslash escapes and
fails on one that is cut short or names no character.
-/

namespace SchemaConcord.Source

open Text

/-- The character of a code point; a surrogate becomes the replacement character. -/
def scalarChar (n : Nat) : Char := if 55296 ≤ n && n < 57344 then '\uFFFD' else Char.ofNat n

def hexNumber? (width : Nat) (cs : List Char) : Option Nat := do
  let ds := cs.take width
  if ds.length < width then none
  let values ← ds.mapM hexValue?
  return values.foldl (fun n d => n * 16 + d) 0

def isOctal (c : Char) : Bool := '0' ≤ c && c ≤ '7'

def simpleEscape? (c : Char) : Option (List Char) :=
  [('\\', ['\\']), ('\'', ['\'']), ('"', ['"']), ('\n', []), ('a', [Char.ofNat 7]), ('b', [Char.ofNat 8]),
    ('f', [Char.ofNat 12]), ('n', ['\n']), ('r', ['\r']), ('t', ['\t']), ('v', [Char.ofNat 11])].lookup c

/-- The text of an escape and the number of characters it takes after the backslash. An escape that is not known
stands for itself, and a backslash at the end for a backslash. -/
def escape? : List Char → Option (List Char × Nat)
  | [] => some (['\\'], 0)
  | c :: rest =>
    match simpleEscape? c with
    | some text => some (text, 1)
    | none =>
      if isOctal c then
        let ds := (c :: rest.take 2).takeWhile isOctal
        some ([scalarChar (ds.foldl (fun n d => n * 8 + (d.toNat - 48)) 0)], ds.length)
      else if c == 'x' then (hexNumber? 2 rest).map fun n => ([scalarChar n], 3)
      else if c == 'u' then (hexNumber? 4 rest).map fun n => ([scalarChar n], 5)
      else if c == 'U' then do
        let n ← hexNumber? 8 rest
        if n < 1114112 then return ([scalarChar n], 9) else none
      else if c == 'N' then
        match rest with
        | '{' :: more =>
          let name := more.takeWhile (· != '}')
          if name.isEmpty || name.length == more.length then none
          else some (['\uFFFD'], name.length + 3)
        | _ => none
      else some (['\\', c], 1)

/-- Reads escapes; the first `skip` characters belong to an escape that has been read. -/
def unescapeFrom? (skip : Nat) : List Char → Option (List Char)
  | [] => some []
  | c :: rest =>
    match skip with
    | n + 1 => unescapeFrom? n rest
    | 0 =>
      if c == '\\' then do
        let (text, used) ← escape? rest
        return text ++ (← unescapeFrom? used rest)
      else (unescapeFrom? 0 rest).map (c :: ·)

def unescape? (raw : Bool) (cs : List Char) : Option (List Char) := if raw then some cs else unescapeFrom? 0 cs

/-- Whether the body of a byte literal is one: ASCII throughout, with whole hexadecimal escapes. -/
def isByteBody (raw : Bool) (skip : Nat) : List Char → Bool
  | [] => true
  | c :: rest =>
    match skip with
    | n + 1 => isAscii c && isByteBody raw n rest
    | 0 =>
      if !isAscii c then false
      else if c == '\\' && !raw then
        match rest with
        | 'x' :: _ => (hexNumber? 2 (rest.drop 1)).isSome && isByteBody raw 3 rest
        | _ => isByteBody raw 1 rest
      else isByteBody raw 0 rest

end SchemaConcord.Source
