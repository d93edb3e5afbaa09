import SchemaConcord.Text.Edit

/-!
# Paths

A path is a root, which is empty for a relative path, and names. Reading a path drops empty names and single dots
and keeps double dots. Paths are ordered name by name.
-/

namespace SchemaConcord

open Text

structure Path where
  root : String
  parts : List String
  deriving DecidableEq, Repr, Inhabited

namespace Path

def parse (s : String) : Path :=
  let slashes := (s.toList.takeWhile (· == '/')).length
  { root := if slashes = 0 then "" else if slashes = 2 then "//" else "/"
    parts := (splitChar '/' s).filter fun p => !p.isEmpty && p != "." }

def isAbsolute (p : Path) : Bool := p.root != ""

def text (p : Path) : String := if p.root.isEmpty && p.parts.isEmpty then "." else p.root ++ joinWith "/" p.parts

def join (p q : Path) : Path := if q.isAbsolute then q else { p with parts := p.parts ++ q.parts }

def child (p : Path) (name : String) : Path := { p with parts := p.parts ++ [name] }

def parent (p : Path) : Path := { p with parts := p.parts.dropLast }

def name (p : Path) : String := p.parts.getLast?.getD ""

def splitName (name : String) : String × String :=
  let cs := name.toList
  let tail := (cs.reverse.takeWhile (· != '.')).reverse
  if tail.isEmpty || cs.length ≤ tail.length + 1 then (name, "")
  else (String.ofList (cs.take (cs.length - tail.length - 1)), String.ofList ('.' :: tail))

def suffix (p : Path) : String := (splitName p.name).2

def stem (p : Path) : String := (splitName p.name).1

def relativeTo? (p base : Path) : Option (List String) :=
  if p.root = base.root && base.parts.isPrefixOf p.parts then some (p.parts.drop base.parts.length) else none

/-- How a path is shown from a base: without the base when it lies below it. -/
def shownFrom (base p : Path) : String :=
  match p.relativeTo? base with
  | some names => text ⟨"", names⟩
  | none => p.text

def components (p : Path) : List String := if p.isAbsolute then p.root :: p.parts else p.parts

def namesLe : List String → List String → Bool
  | [], _ => true
  | _ :: _, [] => false
  | a :: as, b :: bs => if a = b then namesLe as bs else textLe a b

def le (p q : Path) : Bool := namesLe p.components q.components

end Path

end SchemaConcord
