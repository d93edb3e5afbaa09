import SchemaConcord.Datum.Basic
import SchemaConcord.Markup.Reference
import SchemaConcord.Text.Case

/-!
# Tags of a markup text

`Tag.scan` lists the tags of a text in their order. Text between tags, comments, declarations and instructions are
passed over, and so is all that stands inside a script or a style sheet. A construct that does not end before the
text does is taken for text up to the next `>`. A marked section of an unknown kind makes the whole text invalid.
-/

namespace SchemaConcord.Markup

open Text

abbrev Attributes := List (String × String)

inductive Tag where
  | opening (name : String) (attributes : Attributes)
  | whole (name : String) (attributes : Attributes)
  | closing (name : String)
  deriving DecidableEq, Repr

/-! ## Attributes -/

def isQuote (c : Char) : Bool := c == '\'' || c == '"'

def endsName (c : Char) : Bool := ['\t', '\n', '\r', '\x0c', ' ', '/', '>', Char.ofNat 0].contains c

/-- Blanks and slashes between attributes, a slash before `>` apart: the last of them, if any, and the rest. -/
def skipSeparators (last : Option Char) : List Char → Option Char × List Char
  | [] => (last, [])
  | '/' :: '>' :: rest => (last, '/' :: '>' :: rest)
  | c :: rest => if isBlank c || c == '/' then skipSeparators (some c) rest else (last, c :: rest)

/-- The value after an attribute's name, `none` when there is none, and the rest. A quote that is not closed is no
value; what it stands behind then counts as a bare one. -/
def attributeValue (cs : List Char) : Option (List Char) × List Char :=
  let marked := cs.dropWhile isBlank
  let signs := (marked.takeWhile (· == '=')).length
  let spaced := marked.drop signs
  let body := spaced.dropWhile isBlank
  let bare (l : List Char) := (some (l.takeWhile stays), l.dropWhile stays)
  if signs == 0 then (none, cs)
  else match body with
    | [] => bare body
    | q :: inner =>
      if !isQuote q then bare body
      else if inner.contains q then (some (inner.takeWhile (· != q)), (inner.dropWhile (· != q)).drop 1)
      else if spaced.length != body.length then (some [], ' ' :: body)
      else if signs != 1 then bare ('=' :: body)
      else (none, cs)
where
  stays (c : Char) : Bool := c != '>' && !isBlank c

def startsAfter (c : Char) : Bool := isQuote c || isBlank c || c == '/'

/-- The attributes from `cs` on, `last` being the character before, and the rest; a later attribute of a name takes
the place of an earlier one. -/
def attributesFrom : Nat → Char → List Char → Attributes → Attributes × List Char
  | 0, _, cs, found => (found, cs)
  | _, _, [], found => (found, [])
  | fuel + 1, last, c :: rest, found =>
    if !startsAfter last || isBlank c || c == '/' || c == '>' then (found, c :: rest)
    else
      let name := c :: rest.takeWhile stays
      let after := rest.dropWhile stays
      let (value, more) := attributeValue after
      let used := (c :: rest).take ((c :: rest).length - more.length)
      let (separator, more) := skipSeparators (used.getLast?) more
      let found := Datum.putField (lowercase (String.ofList name)) (String.ofList (expand (value.getD []))) found
      attributesFrom fuel (separator.getD last) more found
where
  stays (c : Char) : Bool := !(isBlank c || c == '/' || c == '=' || c == '>')

/-! ## Constructs -/

inductive Construct where
  | tag (t : Tag) (rest : List Char)
  | skipped (rest : List Char)
  | unfinished
  | invalid
  deriving Repr

def afterEnd? (cs : List Char) : Option (List Char) :=
  match cs.dropWhile (· != '>') with
  | [] => none
  | _ :: rest => some rest

def skippedTo : Option (List Char) → Construct
  | some rest => .skipped rest
  | none => .unfinished

def openingAt (cs : List Char) : Construct :=
  let name := cs.takeWhile fun c => !endsName c
  let tagName := lowercase (String.ofList name)
  let (separator, rest) := skipSeparators name.getLast? (cs.drop name.length)
  let (attributes, rest) := attributesFrom rest.length (separator.getD ' ') rest []
  match rest with
  | [] => .unfinished
  | '>' :: after => .tag (.opening tagName attributes) after
  | '/' :: '>' :: after => .tag (.whole tagName attributes) after
  | '=' :: _ => .unfinished
  | _ => .skipped rest

def isClosingNamePart (c : Char) : Bool :=
  isAsciiLetter c || isAsciiDigit c || c == '-' || c == '.' || c == ':' || c == '_'

def closingAt (cs : List Char) : Construct :=
  let body := cs.dropWhile isBlank
  let name := body.takeWhile isClosingNamePart
  let plain := match body with
    | c :: _ => isAsciiLetter c && ((body.drop name.length).dropWhile isBlank).head? == some '>'
    | [] => false
  let startsName := match cs with
    | c :: _ => isAsciiLetter c
    | [] => false
  match afterEnd? cs with
  | none => .unfinished
  | some rest =>
    if plain then .tag (.closing (lowercase (String.ofList name))) rest
    else if startsName then .tag (.closing (lowercase (String.ofList (cs.takeWhile fun c => !endsName c)))) rest
    else .skipped rest

def afterClose? (close : List Char → Option (List Char)) : List Char → Option (List Char)
  | [] => none
  | c :: rest =>
    match close (c :: rest) with
    | some after => some after
    | none => afterClose? close rest

def spacedWords? : List (List Char) → List Char → Option (List Char)
  | [], cs => some cs
  | [word], cs => after? word cs
  | word :: words, cs => (after? word cs).bind fun rest => spacedWords? words (rest.dropWhile isBlank)

def sectionAt (cs : List Char) : Construct :=
  let name := cs.takeWhile fun c => isAsciiLetter c || isAsciiDigit c || c == '-' || c == '.' || c == '_'
  let kind := asciiLowercase name
  match cs with
  | [] => .unfinished
  | c :: _ =>
    if !isAsciiLetter c then .invalid
    else if ((cs.drop name.length).dropWhile isBlank).isEmpty then .unfinished
    else if ["temp", "cdata", "ignore", "include", "rcdata"].contains kind then
      skippedTo (afterClose? (spacedWords? [[']'], [']'], ['>']]) cs)
    else if ["if", "else", "endif"].contains kind then skippedTo (afterClose? (spacedWords? [[']'], ['>']]) cs)
    else .invalid
where
  asciiLowercase (l : List Char) : String := String.ofList (l.map asciiLower)

def constructAt (cs : List Char) : Construct :=
  match cs with
  | '/' :: rest => closingAt rest
  | '!' :: '-' :: '-' :: rest => skippedTo (afterClose? (spacedWords? [['-', '-'], ['>']]) rest)
  | '?' :: rest => skippedTo (afterEnd? rest)
  | '!' :: '[' :: rest => sectionAt rest
  | '!' :: rest => skippedTo (afterEnd? rest)
  | c :: _ => if isAsciiLetter c then openingAt cs else .skipped cs
  | [] => .unfinished

/-- Where reading goes on behind an unfinished construct: after the next `>`, else at the next `<`. -/
def resume (cs : List Char) : List Char :=
  match afterEnd? cs with
  | some rest => rest
  | none => cs.dropWhile (· != '<')

def isVerbatim (name : String) : Bool := name == "script" || name == "style"

def closes? (name cs : List Char) : Option (List Char) :=
  match cs with
  | '<' :: '/' :: body =>
    let body := body.dropWhile isBlank
    if (body.take name.length).map asciiLower == name then
      match (body.drop name.length).dropWhile isBlank with
      | '>' :: rest => some rest
      | _ => none
    else none
  | _ => none

/-- The rest behind the numeric reference after `&#`; it counts only when a character follows it that is no
hexadecimal digit. -/
def numeric? (cs : List Char) : Option (List Char) :=
  let rest := match cs with
    | x :: more =>
      if x == 'x' || x == 'X' then behind (fun c => (hexValue? c).isSome) more else behind isAsciiDigit cs
    | [] => none
  rest.bind fun l => match l with
    | c :: _ => if (hexValue? c).isSome then none else some l
    | [] => none
where
  behind (p : Char → Bool) (l : List Char) : Option (List Char) :=
    if (l.takeWhile p).isEmpty then none else some (l.dropWhile p)

/-! ## The scan -/

inductive MarkupFault where
  | unknownSection
  deriving DecidableEq, Repr

/-- Lists the tags while fuel lasts. A malformed numeric reference ends the reading, unless it is the first thing in
the text that could not be read to its end (`strict` tells) and a semicolon follows it somewhere. -/
def tagsFrom : Nat → Bool → List Char → Except MarkupFault (List Tag)
  | 0, _, _ => .ok []
  | _, _, [] => .ok []
  | fuel + 1, strict, '&' :: '#' :: rest =>
    match numeric? rest with
    | some after => tagsFrom fuel strict after
    | none => if !strict && rest.contains ';' then tagsFrom fuel true rest else .ok []
  | fuel + 1, strict, '<' :: rest =>
    match constructAt rest with
    | .skipped after => tagsFrom fuel strict after
    | .unfinished => tagsFrom fuel true (resume rest)
    | .invalid => .error .unknownSection
    | .tag t after =>
      match t with
      | .opening name _ =>
        if isVerbatim name then
          match afterClose? (closes? name.toList) after with
          | some outside => do return t :: .closing name :: (← tagsFrom fuel strict outside)
          | none => .ok [t]
        else do return t :: (← tagsFrom fuel strict after)
      | _ => do return t :: (← tagsFrom fuel strict after)
  | fuel + 1, strict, _ :: rest => tagsFrom fuel strict rest

def Tag.scan (markup : String) : Except MarkupFault (List Tag) :=
  tagsFrom markup.toList.length false markup.toList

end SchemaConcord.Markup
