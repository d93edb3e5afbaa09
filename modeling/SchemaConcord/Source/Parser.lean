import SchemaConcord.Source.Lexer
import SchemaConcord.Source.Node

/-!
# Parsing steps

A parser takes tokens off the front of a list or fails; a failed alternative gives its tokens back. This module has
the steps that expressions and statements are put together from.
-/

namespace SchemaConcord.Source

abbrev Parser (α : Type) := StateT (List Token) Option α

namespace Parser

def fail : Parser α := fun _ => none

def peek : Parser (Option Token) := fun ts => some (ts.head?, ts)

def peekTwo : Parser (Option Token × Option Token) := fun ts => some ((ts.head?, ts[1]?), ts)

def skip : Parser Unit := fun ts => match ts with
  | _ :: rest => some ((), rest)
  | [] => none

def accept (t : Token) : Parser Bool := fun ts => match ts with
  | u :: rest => if u = t then some (true, rest) else some (false, ts)
  | [] => some (false, [])

def expect (t : Token) : Parser Unit := do
  if ← accept t then return () else fail

def acceptOp (s : String) : Parser Bool := accept (.op s)

def expectOp (s : String) : Parser Unit := expect (.op s)

def acceptWord (s : String) : Parser Bool := accept (.keyword s)

def expectWord (s : String) : Parser Unit := expect (.keyword s)

def identifier : Parser String := fun ts => match ts with
  | .name s :: rest => some (s, rest)
  | _ => none

def isOp (s : String) : Option Token → Bool
  | some (.op w) => w == s
  | _ => false

def isWord (s : String) : Option Token → Bool
  | some (.keyword w) => w == s
  | _ => false

def nextIsOp (s : String) : Parser Bool := do return isOp s (← peek)

def nextIsWord (s : String) : Parser Bool := do return isWord s (← peek)

/-- Repeats a step until it yields nothing; `fuel` bounds the repetitions. -/
def repeatFrom (step : Parser (Option α)) : Nat → Parser (List α)
  | 0 => fail
  | fuel + 1 => do
    match ← step with
    | some a => return a :: (← repeatFrom step fuel)
    | none => return []

/-- Repeats a step that takes at least one token each time it yields something. -/
def repeated (step : Parser (Option α)) : Parser (List α) := fun ts => repeatFrom step (ts.length + 1) ts

def extendFrom (step : α → Parser (Option α)) : Nat → α → Parser α
  | 0, _ => fail
  | fuel + 1, a => do
    match ← step a with
    | some b => extendFrom step fuel b
    | none => return a

def extended (a : α) (step : α → Parser (Option α)) : Parser α := fun ts => extendFrom step (ts.length + 1) a ts

/-- One or more items with separators between them, a separator at the end being allowed when `stops` holds after
it; says whether there was any separator. -/
def separated (item : Parser α) (separator : String) (stops : Parser Bool) : Parser (List α × Bool) := do
  let first ← item
  let rest ← repeated do
    if ← acceptOp separator then
      if ← stops then return some none
      return some (some (← item))
    return none
  return (first :: rest.filterMap id, !rest.isEmpty)

end Parser

end SchemaConcord.Source
