import SchemaConcord.Source.Literal
import SchemaConcord.Source.Node

/-!
# Interpolated strings

The body of an interpolated string is cut into literal text and replacement fields in braces. A field has an
expression, and may have an equals sign that repeats its text, a conversion and a format, which is itself cut into
text and fields, one level deep. Doubled braces stand for braces, outside formats.
-/

namespace SchemaConcord.Source

open Text

inductive Piece where
  | text (cs : List Char)
  | field (n : Node)

/-- A brace or the end that stops literal text, or a doubled brace after which more text follows. -/
inductive Stop where
  | here
  | again

/-- Literal text: the characters as written, why it stops, and what follows. At the top level a doubled brace counts
once and a lone closing brace is an error. -/
def literalText? (raw top : Bool) : Nat → List Char → Option (List Char × Stop × List Char)
  | 0, _ => none
  | fuel + 1, cs =>
    let brace (before : List Char) (c : Char) (rest : List Char) : Option (List Char × Stop × List Char) :=
      if top then
        if rest.head? == some c then some (before ++ [c], .again, rest.drop 1)
        else if c == '}' then none
        else some (before, .here, c :: rest)
      else some (before, .here, c :: rest)
    let more (before rest : List Char) : Option (List Char × Stop × List Char) :=
      (literalText? raw top fuel rest).map fun (text, stop, tail) => (before ++ text, stop, tail)
    match cs with
    | [] => some ([], .here, [])
    | c :: rest =>
      if c == '\\' && !raw then
        match rest with
        | 'N' :: '{' :: name =>
          let inside := name.takeWhile (· != '}')
          more ('\\' :: 'N' :: '{' :: inside ++ (name.drop inside.length).take 1) (name.drop (inside.length + 1))
        | d :: rest => if d == '{' || d == '}' then brace ['\\'] d rest else more ['\\', d] rest
        | [] => some (['\\'], .here, [])
      else if c == '{' || c == '}' then brace [] c rest
      else more [c] rest

/-- Where the scan of an expression stands: in a string with this quote, three times when `long`. -/
structure QuoteState where
  quote : Char
  long : Bool

def matching (opening closing : Char) : Bool :=
  (opening == '(' && closing == ')') || (opening == '[' && closing == ']') || (opening == '{' && closing == '}')

/-- The text of an expression up to the sign that ends it, and what follows from that sign on. -/
def expressionText? (inside : Option QuoteState) (open_ : List Char) : Nat → List Char → Option (List Char × List Char)
  | 0, _ => none
  | fuel + 1, cs =>
    let more (inside : Option QuoteState) (open_ before rest : List Char) : Option (List Char × List Char) :=
      (expressionText? inside open_ fuel rest).map fun (text, tail) => (before ++ text, tail)
    match cs with
    | [] => none
    | c :: rest =>
      if c == '\\' then none
      else match inside with
        | some q =>
          if c == q.quote then
            if q.long then
              match rest with
              | d :: e :: tail => if d == c && e == c then more none open_ [c, d, e] tail else more inside open_ [c] rest
              | _ => more inside open_ [c] rest
            else more none open_ [c] rest
          else more inside open_ [c] rest
        | none =>
          if c == '\'' || c == '"' then
            match rest with
            | d :: e :: tail =>
              if d == c && e == c then more (some ⟨c, true⟩) open_ [c, d, e] tail else more (some ⟨c, false⟩) open_ [c] rest
            | _ => more (some ⟨c, false⟩) open_ [c] rest
          else if c == '(' || c == '[' || c == '{' then
            if 200 ≤ open_.length then none else more none (c :: open_) [c] rest
          else if c == '#' then none
          else if open_.isEmpty && (c == '!' || c == ':' || c == '}' || c == '=' || c == '<' || c == '>') then
            if rest.head? == some '=' && (c == '!' || c == '=' || c == '<' || c == '>') then
              more none open_ [c, '='] (rest.drop 1)
            else if c == '<' || c == '>' then more none open_ [c] rest
            else some ([], cs)
          else if c == ')' || c == ']' || c == '}' then
            match open_ with
            | o :: others => if matching o c then more none others [c] rest else none
            | [] => none
          else more none open_ [c] rest

/-- Skips a conversion: an exclamation mark and one of three letters. -/
def conversion? : List Char → Option (List Char)
  | '!' :: c :: d :: rest =>
    if (c == 's' || c == 'r' || c == 'a') && (d == '}' || d == ':') then some (d :: rest) else none
  | '!' :: _ => none
  | cs => some cs

def isAsciiBlank (c : Char) : Bool := c == ' ' || (9 ≤ c.toNat && c.toNat ≤ 13)

/-- Pieces as the parts of a string: neighbouring texts joined, empty ones left out. -/
def partsFrom (before : List Char) : List Piece → List Node
  | [] => if before.isEmpty then [] else [.string (String.ofList before)]
  | .text cs :: rest => partsFrom (before ++ cs) rest
  | .field n :: rest =>
    (if before.isEmpty then [] else [.string (String.ofList before)]) ++ n :: partsFrom [] rest

/-- The pieces of a body. `level` counts the formats around it, `expression?` parses the text of a field. -/
def pieces? (expression? : List Char → Option Node) (raw : Bool) (level : Nat) :
    Nat → List Char → Option (List Piece × List Char)
  | 0, _ => none
  | fuel + 1, cs => do
    let (written, stop, rest) ← literalText? raw (level == 0) (cs.length + 1) cs
    let text ← unescape? raw written
    let again (pieces : List Piece) (rest : List Char) : Option (List Piece × List Char) := do
      let (more, tail) ← pieces? expression? raw level fuel rest
      return (.text text :: pieces ++ more, tail)
    match stop, rest with
    | .again, rest => again [] rest
    | .here, '{' :: body =>
      if 2 ≤ level then none
      else do
        let (source, rest) ← expressionText? none [] (body.length + 1) body
        let n ← expression? source
        let (shown, rest) := match rest with
          | '=' :: more =>
            let blanks := more.takeWhile isAsciiBlank
            (source ++ '=' :: blanks, more.dropWhile isAsciiBlank)
          | _ => ([], rest)
        let rest ← conversion? rest
        match rest with
        | ':' :: format => do
          let (inner, rest) ← pieces? expression? raw (level + 1) fuel format
          match rest with
          | '}' :: rest => again [.text shown, .field (.other [n, .interpolated (partsFrom [] inner)])] rest
          | _ => none
        | '}' :: rest => again [.text shown, .field (.other [n])] rest
        | _ => none
    | .here, rest => some ([.text text], rest)

def interpolate? (expression? : List Char → Option Node) (raw : Bool) (cs : List Char) : Option (List Piece) :=
  match pieces? expression? raw 0 (2 * cs.length + 2) cs with
  | some (pieces, []) => some pieces
  | _ => none

end SchemaConcord.Source
