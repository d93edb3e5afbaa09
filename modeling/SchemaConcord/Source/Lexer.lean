import SchemaConcord.Text.Compatibility

/-!
# Tokens of handler sources

The lexical units of a request-handler source: names and keywords, numbers, string literals with the letters before
their quotes, operators, and the marks for line ends and changes of indentation.

`tokens?` cuts a source into tokens, with line ends and changes of indentation marked where they count: not inside
brackets, not on lines that hold nothing but blanks and a comment. It fails where a token is ill-formed, brackets do
not pair up, or the indentation is inconsistent. Indentation is measured twice, with tabs eight columns and one
column wide, and both measures have to agree on every comparison.
-/

namespace SchemaConcord.Source

open Text

inductive Token where
  | name (s : String)
  | keyword (s : String)
  /-- A number; only whole ones keep their value. -/
  | number (value : Option Int)
  /-- A string literal: which letters stand before the quotes, and the text between the quotes. -/
  | literal (bytes raw formatted : Bool) (body : List Char)
  | op (s : String)
  | newline
  | indent
  | dedent
  deriving DecidableEq, Repr, Inhabited

def keywords : List String :=
  ["False", "None", "True", "and", "as", "assert", "async", "await", "break", "class", "continue", "def", "del",
    "elif", "else", "except", "finally", "for", "from", "global", "if", "import", "in", "is", "lambda", "nonlocal",
    "not", "or", "pass", "raise", "return", "try", "while", "with", "yield"]

def operators : List String :=
  ["**=", "//=", ">>=", "<<=", "...", "!=", "->", "**", "//", "<<", ">>", "<=", ">=", "==", "+=", "-=", "*=", "/=",
    "%=", "@=", "&=", "|=", "^=", ":=", "<>", "(", ")", "[", "]", "\x7b", "\x7d", ",", ":", ".", ";", "@", "=", "+",
    "-", "*", "/", "%", "&", "|", "^", "~", "<", ">", "!"]

/-! ## Names and numbers -/

/-- Characters that may go into a name, before the name as a whole is checked. -/
def isNameByte (c : Char) : Bool := isAsciiLetter c || isAsciiDigit c || c == '_' || !isAscii c

def isNameHeadByte (c : Char) : Bool := isNameByte c && !isAsciiDigit c

/-- The digits of a class with single underscores between them, and what follows; fails on an underscore that no
digit follows. -/
def digitTail? (p : Char → Bool) : List Char → Option (List Char × List Char)
  | [] => some ([], [])
  | c :: rest =>
    if p c then (digitTail? p rest).map fun (ds, tail) => (c :: ds, tail)
    else if c == '_' then
      if (rest.head?.map p).getD false then digitTail? p rest else none
    else some ([], c :: rest)

def keywordFollows (cs : List Char) : Bool :=
  let word (w : String) : Bool := match w.toList.isPrefixOf? cs with
    | some rest => !(rest.head?.map isNameByte).getD false
    | none => false
  word "and" || word "else" || word "for" || word "or" || word "not" ||
    ["if", "in", "is"].any fun w => w.toList.isPrefixOf cs

/-- The end of a number: nothing that could continue a name, a few keywords apart. -/
def numberEnd? (value : Option Int) (cs : List Char) : Option (Option Int × List Char) :=
  if keywordFollows cs || !(cs.head?.map isNameByte).getD false then some (value, cs) else none

def digitsIn (base : Nat) (ds : List Char) : Int :=
  ds.foldl (fun n d => n * base + (hexValue? d).getD 0) 0

def based? (base : Nat) (p : Char → Bool) (cs : List Char) : Option (Option Int × List Char) := do
  let cs := match cs with
    | '_' :: rest => rest
    | _ => cs
  let (ds, rest) ← digitTail? p cs
  if ds.isEmpty || !((cs.head?.map p).getD false) || (rest.head?.map isAsciiDigit).getD false then none
  else numberEnd? (some (digitsIn base ds)) rest

def imaginaryEnd? (value : Option Int) : List Char → Option (Option Int × List Char)
  | c :: rest => if c == 'j' || c == 'J' then numberEnd? none rest else numberEnd? value (c :: rest)
  | [] => numberEnd? value []

/-- An exponent after the digits, or their end. A letter `e` that no exponent follows may begin a keyword. -/
def exponentEnd? (value : Option Int) : List Char → Option (Option Int × List Char)
  | [] => imaginaryEnd? value []
  | e :: rest =>
    if e == 'e' || e == 'E' then
      match rest with
      | s :: more =>
        if s == '+' || s == '-' then
          if (more.head?.map isAsciiDigit).getD false then do
            let (_, tail) ← digitTail? isAsciiDigit more
            imaginaryEnd? none tail
          else none
        else if isAsciiDigit s then do
          let (_, tail) ← digitTail? isAsciiDigit rest
          imaginaryEnd? none tail
        else numberEnd? value (e :: rest)
      | [] => numberEnd? value (e :: rest)
    else imaginaryEnd? value (e :: rest)

def fractionEnd? (cs : List Char) : Option (Option Int × List Char) :=
  if (cs.head?.map isAsciiDigit).getD false then do
    let (_, tail) ← digitTail? isAsciiDigit cs
    exponentEnd? none tail
  else exponentEnd? none cs

def maxDigits : Nat := 4300

def number? (cs : List Char) : Option (Option Int × List Char) :=
  match cs with
  | '0' :: 'x' :: rest | '0' :: 'X' :: rest => based? 16 (fun c => (hexValue? c).isSome) rest
  | '0' :: 'o' :: rest | '0' :: 'O' :: rest => based? 8 (fun c => '0' ≤ c && c ≤ '7') rest
  | '0' :: 'b' :: rest | '0' :: 'B' :: rest => based? 2 (fun c => c == '0' || c == '1') rest
  | _ => do
    let (ds, rest) ← digitTail? isAsciiDigit cs
    let significant := ds.dropWhile (· == '0')
    let value := some (digitsIn 10 ds)
    match rest with
    | '.' :: more => fractionEnd? more
    | c :: _ =>
      let leading := ds.head? == some '0' && !significant.isEmpty
      if c == 'e' || c == 'E' then exponentEnd? (if leading then none else value) rest
      else if c == 'j' || c == 'J' then imaginaryEnd? value rest
      else if leading || maxDigits < ds.length then none
      else numberEnd? value rest
    | [] => if (ds.head? == some '0' && !significant.isEmpty) || maxDigits < ds.length then none else some (value, [])

/-! ## String literals -/

structure LiteralMarks where
  bytes : Bool := false
  raw : Bool := false
  formatted : Bool := false
  plain : Bool := false

/-- Takes one more letter before a quote, when it may stand with those before. -/
def LiteralMarks.add? (m : LiteralMarks) (c : Char) : Option LiteralMarks :=
  if (c == 'b' || c == 'B') && !(m.bytes || m.plain || m.formatted) then some { m with bytes := true }
  else if (c == 'u' || c == 'U') && !(m.bytes || m.plain || m.raw || m.formatted) then some { m with plain := true }
  else if (c == 'r' || c == 'R') && !(m.raw || m.plain) then some { m with raw := true }
  else if (c == 'f' || c == 'F') && !(m.formatted || m.bytes || m.plain) then some { m with formatted := true }
  else none

def literalStart? (m : LiteralMarks) : List Char → Option (LiteralMarks × List Char)
  | [] => none
  | c :: rest =>
    if c == '"' || c == '\'' then some (m, c :: rest)
    else match m.add? c with
      | some m => literalStart? m rest
      | none => none

/-- The body of a literal up to its closing quotes; `escaped` says that the character before is a backslash. -/
def shortBody? (quote : Char) (escaped : Bool) : List Char → Option (List Char × List Char)
  | [] => none
  | c :: rest =>
    if escaped then (shortBody? quote false rest).map fun (b, t) => (c :: b, t)
    else if c == quote then some ([], rest)
    else if c == '\n' then none
    else (shortBody? quote (c == '\\') rest).map fun (b, t) => (c :: b, t)

def longBody? (quote : Char) (escaped : Bool) : List Char → Option (List Char × List Char)
  | [] => none
  | c :: rest =>
    if escaped then (longBody? quote false rest).map fun (b, t) => (c :: b, t)
    else match c == quote, rest with
      | true, d :: e :: tail =>
        if d == quote && e == quote then some ([], tail)
        else (longBody? quote false rest).map fun (b, t) => (c :: b, t)
      | _, _ => (longBody? quote (c == '\\') rest).map fun (b, t) => (c :: b, t)

def literal? (m : LiteralMarks) : List Char → Option (Token × List Char)
  | q :: rest =>
    let body := match rest with
      | a :: b :: more => if a == q && b == q then longBody? q false more else shortBody? q false rest
      | _ => shortBody? q false rest
    body.map fun (b, tail) => (.literal m.bytes m.raw m.formatted b, tail)
  | [] => none

/-! ## Lines -/

/-- What the lexer keeps between tokens: the open indentations with the two measures of each, innermost first, the
open brackets, and whether a line starts here. -/
structure LexState where
  indents : List (Nat × Nat) := [(0, 0)]
  brackets : List Char := []
  lineStart : Bool := true

def maxBrackets : Nat := 200

def maxIndents : Nat := 100

def continuation? : List Char → Option (List Char)
  | '\n' :: c :: rest => some (c :: rest)
  | _ => none

/-- The blanks at the start of a line: their two measures and what follows. A backslash joins the next line on, and
the blanks before the first one decide. `fuel` bounds the number of characters. -/
def measure? (col alt joined : Nat) : Nat → List Char → Option (Nat × Nat × Nat × List Char)
  | 0, _ => none
  | fuel + 1, cs =>
    match cs with
    | ' ' :: rest => measure? (col + 1) (alt + 1) joined fuel rest
    | '\t' :: rest => measure? ((col / 8 + 1) * 8) (alt + 1) joined fuel rest
    | '\\' :: rest => do
      let rest ← continuation? rest
      measure? col alt (if joined == 0 then col else joined) fuel rest
    | c :: rest => if c.toNat == 12 then measure? 0 0 joined fuel rest else some (col, alt, joined, cs)
    | [] => some (col, alt, joined, cs)

/-- Closes indentations down to a column; the marks for those closed and the rest of the stack. -/
def closeIndents (col : Nat) : List (Nat × Nat) → List Token × List (Nat × Nat)
  | (c, a) :: (d, b) :: rest =>
    if col < c then
      let (marks, stack) := closeIndents col ((d, b) :: rest)
      (.dedent :: marks, stack)
    else ([], (c, a) :: (d, b) :: rest)
  | stack => ([], stack)

def indentTo? (col alt : Nat) (stack : List (Nat × Nat)) : Option (List Token × List (Nat × Nat)) :=
  match stack with
  | [] => none
  | (c, a) :: _ =>
    if col == c then (if alt == a then some ([], stack) else none)
    else if c < col then
      if maxIndents ≤ stack.length || alt ≤ a then none else some ([.indent], (col, alt) :: stack)
    else
      let (marks, stack) := closeIndents col stack
      if stack.head? == some (col, alt) then some (marks, stack) else none

def closes (opening closing : Char) : Bool :=
  (opening == '(' && closing == ')') || (opening == '[' && closing == ']') || (opening == '{' && closing == '}')

def bracket? (s : LexState) (c : Char) : Option LexState :=
  if c == '(' || c == '[' || c == '{' then
    if maxBrackets ≤ s.brackets.length then none else some { s with brackets := c :: s.brackets }
  else if c == ')' || c == ']' || c == '}' then
    match s.brackets with
    | o :: rest => if closes o c then some { s with brackets := rest } else none
    | [] => none
  else some s

def operator? (cs : List Char) : Option (String × List Char) :=
  operators.findSome? fun w => (w.toList.isPrefixOf? cs).map fun rest => (w, rest)

def dropComment : List Char → List Char
  | '#' :: rest => rest.dropWhile (· != '\n')
  | cs => cs

/-- A word as a token; a name stands for its composed compatibility form. -/
def nameToken (cs : List Char) : Token :=
  let s := String.ofList cs
  if keywords.contains s then .keyword s else .name (String.ofList (compatible cs))

def token? (s : LexState) (cs : List Char) : Option (Token × LexState × List Char) :=
  match cs with
  | [] => none
  | c :: rest =>
    match if isNameHeadByte c || c == '"' || c == '\'' then literalStart? {} cs else none with
    | some (marks, body) => (literal? marks body).map fun (t, tail) => (t, s, tail)
    | none =>
      if isNameHeadByte c then
        let word := cs.takeWhile isNameByte
        if isIdentifier word then some (nameToken word, s, cs.dropWhile isNameByte) else none
      else if isAsciiDigit c then (number? cs).map fun (n, tail) => (.number n, s, tail)
      else if c == '.' && (rest.head?.map isAsciiDigit).getD false then
        (fractionEnd? rest).map fun (n, tail) => (.number n, s, tail)
      else do
        let (w, tail) ← operator? cs
        let s ← bracket? s c
        if w == "!" then none else return (.op w, s, tail)

def isInlineBlank (c : Char) : Bool := c == ' ' || c == '\t' || c.toNat == 12

/-- The tokens of a text from a state on; `fuel` bounds the number of steps. -/
def lexFrom (s : LexState) : Nat → List Char → Option (List Token)
  | 0, _ => none
  | fuel + 1, cs =>
    if s.lineStart then do
      let (col, alt, joined, rest) ← measure? 0 0 0 (cs.length + 1) cs
      match rest with
      | '#' :: _ => lexFrom s fuel ((dropComment rest).drop 1)
      | '\n' :: more => lexFrom s fuel more
      | _ =>
        let s := { s with lineStart := false }
        if s.brackets.isEmpty then do
          let (col, alt) := if joined == 0 then (col, alt) else (joined, joined)
          let (marks, stack) ← indentTo? col alt s.indents
          return marks ++ (← lexFrom { s with indents := stack } fuel rest)
        else lexFrom s fuel rest
    else
      match dropComment (cs.dropWhile isInlineBlank) with
      | [] => if s.brackets.isEmpty then some [] else none
      | '\n' :: rest =>
        if s.brackets.isEmpty then (lexFrom { s with lineStart := true } fuel rest).map (.newline :: ·)
        else lexFrom { s with lineStart := true } fuel rest
      | '\\' :: rest => do lexFrom s fuel (← continuation? rest)
      | rest => do
        let (t, s, tail) ← token? s rest
        return t :: (← lexFrom s fuel tail)

/-- Line ends of all three kinds as line feeds, and one at the end of a text that has none there. -/
def unifyLines : List Char → List Char
  | [] => []
  | '\r' :: '\n' :: rest => '\n' :: unifyLines rest
  | '\r' :: rest => '\n' :: unifyLines rest
  | c :: rest => c :: unifyLines rest

def withLastLineEnd (cs : List Char) : List Char :=
  if cs.isEmpty || cs.getLast? == some '\n' then cs else cs ++ ['\n']

def tokens? (source : List Char) : Option (List Token) :=
  let cs := withLastLineEnd (unifyLines source)
  lexFrom {} (2 * cs.length + 2) cs

end SchemaConcord.Source
