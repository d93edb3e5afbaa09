import SchemaConcord.Route.Basic
import SchemaConcord.Text.Edit

/-!
# Route paths

A parameter of a path is written `:name`, with braces around the name and perhaps a converter after it, or with
angle brackets and perhaps a converter before it. Two paths match when they have the same segments, a parameter
standing for any segment.
-/

namespace SchemaConcord.RoutePath

open Text

structure Found where
  name : List Char
  converter : List Char := []

def word? (cs : List Char) : Option (List Char × List Char) :=
  let w := cs.takeWhile isWord
  if w.isEmpty then none else some (w, cs.dropWhile isWord)

def braced? (cs : List Char) : Option (Found × List Char) := do
  let (name, rest) ← word? cs
  match rest with
  | '}' :: tail => return ({ name }, tail)
  | ':' :: more => match more.dropWhile (· != '}') with
    | '}' :: tail => return ({ name }, tail)
    | _ => none
  | _ => none

def angled? (cs : List Char) : Option (Found × List Char) := do
  let (first, rest) ← word? cs
  match rest with
  | '>' :: tail => return ({ name := first }, tail)
  | ':' :: more => do
    let (name, rest) ← word? more
    match rest with
    | '>' :: tail => return ({ name, converter := first }, tail)
    | _ => none
  | _ => none

def found? : List Char → Option (Found × List Char)
  | ':' :: rest => (word? rest).map fun (name, tail) => ({ name }, tail)
  | '{' :: rest => braced? rest
  | '<' :: rest => angled? rest
  | _ => none

/-- The parameters from left to right; the first `skip` characters belong to one that has been found. -/
def foundFrom (skip : Nat) : List Char → List Found
  | [] => []
  | c :: rest =>
    match skip with
    | n + 1 => foundFrom n rest
    | 0 => match found? (c :: rest) with
      | some (p, tail) => p :: foundFrom (rest.length - tail.length) rest
      | none => foundFrom 0 rest

def converterType (converter : List Char) : String :=
  if converter == "int".toList then "integer"
  else if converter == "float".toList then "number"
  else "string"

def parameters (path : String) : List RouteParameter :=
  (foundFrom 0 path.toList).map fun p => { name := String.ofList p.name, type := converterType p.converter }

def segments (path : String) : List (List Char) := splitAt (· == '/') (trim (· == '/') path.toList)

def isParameterSegment (s : List Char) : Bool :=
  s.head? == some ':' || (s.head? == some '{' && s.getLast? == some '}') || (s.head? == some '<' && s.getLast? == some '>')

def segmentMatches (a b : List Char) : Bool := a == b || isParameterSegment a || isParameterSegment b

def segmentsMatch : List (List Char) → List (List Char) → Bool
  | [], [] => true
  | a :: as, b :: bs => segmentMatches a b && segmentsMatch as bs
  | _, _ => false

def pathsMatch (left right : String) : Bool := segmentsMatch (segments left) (segments right)

def identifierBase? (name : String) : Option String :=
  if hasTail name "Id" && 2 < name.length then some (dropLast 2 name)
  else if hasTail name "_id" && 3 < name.length then some (dropLast 3 name)
  else none

end SchemaConcord.RoutePath
