import SchemaConcord.Files.Tree

/-!
# Patterns

A pattern selects paths below a directory, part by part: two stars stand for any number of directories, a part with
a star, a question mark or a bracket for the names it matches, any other part for itself.
-/

namespace SchemaConcord

open Text

/-! ## Names -/

/-- A character of a class in brackets, or the sign of a range between two of them. -/
inductive ClassSign where
  | char (c : Char)
  | range
  deriving DecidableEq, Repr

inductive NameSign where
  | any
  | one
  | char (c : Char)
  | class (negated : Bool) (ranges : List (Char × Char))
  deriving DecidableEq, Repr

namespace Glob

/-- The pieces of a class between the hyphens that make ranges: a hyphen does when a character stands before it that
is neither the first of the class nor the end of a range. -/
def pieces : Nat → List Char → List (List Char)
  | 0, cs => [cs]
  | fuel + 1, cs =>
    match cs with
    | [] => [[]]
    | c :: rest =>
      match rest.dropWhile (· != '-') with
      | [] => [c :: rest]
      | _ :: after => (c :: rest.takeWhile (· != '-')) :: pieces fuel after

def settleLast (l : List (List Char)) : List (List Char) :=
  match l.reverse with
  | [] :: piece :: rest => ((piece ++ ['-']) :: rest).reverse
  | _ => l

def joinEmpty : List (List Char) → List (List Char)
  | [] => []
  | piece :: rest =>
    match joinEmpty rest with
    | next :: more =>
      match piece.getLast?, next with
      | some a, b :: tail => if b < a then (piece.dropLast ++ tail) :: more else piece :: next :: more
      | _, _ => piece :: next :: more
    | [] => [piece]

def signs : List (List Char) → List ClassSign
  | [] => []
  | [piece] => piece.map .char
  | piece :: rest => piece.map .char ++ .range :: signs rest

/-- The ranges that signs stand for; a sign of a range at the start stands for a hyphen. -/
def ranges : List ClassSign → List (Char × Char)
  | [] => []
  | .char a :: .range :: .char b :: rest => (a, b) :: ranges rest
  | .char a :: rest => (a, a) :: ranges rest
  | .range :: rest => ('-', '-') :: ranges rest

/-- A class from what stands in its brackets; an exclamation mark in front negates it. -/
def classOf (body : List Char) : NameSign :=
  let split := match body with
    | '!' :: c :: rest => match pieces rest.length (c :: rest) with
      | piece :: more => ('!' :: piece) :: more
      | [] => []
    | cs => pieces cs.length cs
  match signs (joinEmpty (settleLast split)) with
  | [.char '!'] => .one
  | .char '!' :: rest => .class true (ranges rest)
  | rest => .class false (ranges rest)

/-- The body of a class and what follows its bracket; a bracket right at the start belongs to the body. -/
def classBody? (cs : List Char) : Option (List Char × List Char) :=
  let (mark, rest) := match cs with
    | '!' :: rest => (['!'], rest)
    | _ => ([], cs)
  let (first, rest) := match rest with
    | ']' :: rest => ([']'], rest)
    | _ => ([], rest)
  match rest.dropWhile (· != ']') with
  | [] => none
  | _ :: after => some (mark ++ first ++ rest.takeWhile (· != ']'), after)

def nameSigns : Nat → List Char → List NameSign
  | 0, _ => []
  | _, [] => []
  | fuel + 1, c :: rest =>
    if c == '*' then .any :: nameSigns fuel rest
    else if c == '?' then .one :: nameSigns fuel rest
    else if c == '[' then
      match classBody? rest with
      | some (body, after) => classOf body :: nameSigns fuel after
      | none => .char c :: nameSigns fuel rest
    else .char c :: nameSigns fuel rest

def ends : List α → List (List α)
  | [] => [[]]
  | a :: rest => (a :: rest) :: ends rest

def NameSign.accepts (s : NameSign) (c : Char) : Bool :=
  match s with
  | .any => false
  | .one => true
  | .char d => c == d
  | .class negated ranges => negated != ranges.any fun r => r.1 ≤ c && c ≤ r.2

def «matches» : List NameSign → List Char → Bool
  | [], cs => cs.isEmpty
  | .any :: rest, cs => (ends cs).any («matches» rest)
  | s :: rest, cs =>
    match cs with
    | [] => false
    | c :: more => NameSign.accepts s c && «matches» rest more

end Glob

/-! ## Paths -/

inductive PatternPart where
  | directories
  | names (signs : List NameSign)
  | name (text : String)
  /-- Nothing behind the last slash: only directories count. -/
  | here
  deriving DecidableEq, Repr

inductive PatternFault where
  | empty | absolute | mixedStars | noPart | onlySlash
  deriving DecidableEq, Repr

def PatternFault.message : PatternFault → String
  | .empty => "Unacceptable pattern: ''"
  | .absolute => "Non-relative patterns are unsupported"
  | .mixedStars => "Invalid pattern: '**' can only be an entire path component"
  | .noPart => "tuple index out of range"
  | .onlySlash => "'_TerminatingSelector' object has no attribute 'select_from'"

namespace Glob

def partOf (s : String) : Except PatternFault PatternPart :=
  if s = "**" then .ok .directories
  else if contains s "**" then .error .mixedStars
  else if ["*", "?", "["].any (contains s) then .ok (.names (nameSigns s.length s.toList))
  else .ok (.name s)

def parse (pattern : String) : Except PatternFault (List PatternPart) := do
  if pattern.isEmpty then throw .empty
  let p := Path.parse pattern
  if p.isAbsolute then throw .absolute
  let parts ← p.parts.mapM partOf
  let slash := hasTail pattern "/"
  if parts.isEmpty then throw (if slash then .onlySlash else .noPart)
  return if slash then parts ++ [.here] else parts

def select (t : FileTree) : List PatternPart → Path → List Path
  | [], p => [p]
  | .here :: _, p => [p]
  | .name n :: rest, p =>
    let q := p.child n
    if if rest.isEmpty then t.isPresent q else t.isDirectory q then select t rest q else []
  | .names signs :: rest, p =>
    ((t.children p).filter fun (n, e) => (rest.isEmpty || e.isDirectory) && «matches» signs n.toList).flatMap
      fun (n, _) => select t rest (p.child n)
  | .directories :: rest, p => (t.directoriesFrom p).flatMap (select t rest)

def glob (t : FileTree) (base : Path) (pattern : String) : Except PatternFault (List Path) := do
  let parts ← parse pattern
  return if t.isDirectory base then select t parts base else []

end Glob

end SchemaConcord
