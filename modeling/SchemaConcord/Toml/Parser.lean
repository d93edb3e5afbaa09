import SchemaConcord.Toml.Number

/-!
# TOML documents

A document is read in two passes: its lines as statements, which open a section or assign a value, and then the
statements into a tree. A table may be declared once, by the head of a section or by the keys of one section; values
that are written in one piece are never added to.
-/

namespace SchemaConcord.Toml

open Text

/-! ## The tree -/

/-- What a name of the document stands for: a value in one piece, a table with the section that declared it, or the
tables of an array. -/
inductive Node where
  | value (v : Datum)
  | table (declared : Option Nat) (fields : List (String × Node))
  | tables (items : List (List (String × Node)))

abbrev Fields := List (String × Node)

mutual

def Node.toDatum : Node → Datum
  | .value v => v
  | .table _ fields => .record (fieldsToData fields)
  | .tables items => .list (itemsToData items)

def fieldsToData : List (String × Node) → List (String × Datum)
  | [] => []
  | (k, n) :: rest => (k, n.toDatum) :: fieldsToData rest

def itemsToData : List (List (String × Node)) → List Datum
  | [] => []
  | fields :: rest => .record (fieldsToData fields) :: itemsToData rest

end

def onLast (f : Fields → Option Fields) : List Fields → Option (List Fields)
  | [] => none
  | [fields] => (f fields).map ([·])
  | fields :: rest => (onLast f rest).map (fields :: ·)

/-- Changes the table at a path; tables on the way that are missing are added, and of an array the last table is
meant. -/
def update (f : Fields → Option Fields) : List String → Fields → Option Fields
  | [], fields => f fields
  | k :: path, fields => do
    let n ← match fields.lookup k with
      | none => (update f path []).map (.table none)
      | some (.table declared inner) => (update f path inner).map (.table declared)
      | some (.tables items) => (onLast (update f path) items).map .tables
      | some (.value _) => none
    return Datum.putField k n fields

def declare (part : Nat) (k : String) (fields : Fields) : Option Fields :=
  match fields.lookup k with
  | none => some (Datum.putField k (.table (some part) []) fields)
  | some (.table none inner) => some (Datum.putField k (.table (some part) inner) fields)
  | some _ => none

def addTable (k : String) (fields : Fields) : Option Fields :=
  match fields.lookup k with
  | none => some (Datum.putField k (.tables [[]]) fields)
  | some (.tables items) => some (Datum.putField k (.tables (items ++ [[]])) fields)
  | some _ => none

/-- Assigns a value to a key in a section. The tables that the key leads through are declared by it, and must not
be declared by another section. -/
def assign (part : Nat) (v : Datum) : List String → Fields → Option Fields
  | [], _ => none
  | [k], fields => if (fields.lookup k).isSome then none else some (Datum.putField k (.value v) fields)
  | k :: path, fields => do
    let inner ← match fields.lookup k with
      | none => some []
      | some (.table none inner) => some inner
      | some (.table (some s) inner) => if s = part then some inner else none
      | some _ => none
    return Datum.putField k (.table (some part) (← assign part v path inner)) fields

/-! ## Values -/

/-- The items of an array up to its closing bracket, with a comma allowed after the last. -/
def items? (value? : List Char → Option (Datum × List Char)) : Nat → List Char → Option (List Datum × List Char)
  | 0, _ => none
  | fuel + 1, cs => do
    match ← afterLines? cs.length cs with
    | ']' :: tail => return ([], tail)
    | cs =>
      let (v, rest) ← value? cs
      match ← afterLines? rest.length rest with
      | ',' :: more => do
        let (vs, tail) ← items? value? fuel more
        return (v :: vs, tail)
      | ']' :: tail => return ([v], tail)
      | _ => none

def pair? (value? : List Char → Option (Datum × List Char)) (cs : List Char) :
    Option ((List String × Datum) × List Char) := do
  let (key, rest) ← key? cs.length cs
  match rest with
  | '=' :: rest => do
    let (v, tail) ← value? (skipSpaces rest)
    return ((key, v), tail)
  | _ => none

/-- The pairs of a table in one piece up to its closing brace, put into `fields`. -/
def pairs? (value? : List Char → Option (Datum × List Char)) : Nat → Fields → List Char → Option (Fields × List Char)
  | 0, _, _ => none
  | fuel + 1, fields, cs => do
    let ((key, v), rest) ← pair? value? cs
    let fields ← assign 0 v key fields
    match skipSpaces rest with
    | ',' :: more => pairs? value? fuel fields (skipSpaces more)
    | '}' :: tail => return (fields, tail)
    | _ => none

/-- A value that nests at most `depth` deep, and what follows it. -/
def value? : Nat → List Char → Option (Datum × List Char)
  | depth, cs =>
    match cs with
    | [] => none
    | 't' :: 'r' :: 'u' :: 'e' :: tail => some (.flag true, tail)
    | 'f' :: 'a' :: 'l' :: 's' :: 'e' :: tail => some (.flag false, tail)
    | '[' :: rest =>
      match depth with
      | 0 => none
      | depth + 1 => (items? (value? depth) (rest.length + 1) rest).map fun (vs, tail) => (.list vs, tail)
    | '{' :: rest =>
      match depth with
      | 0 => none
      | depth + 1 =>
        match skipSpaces rest with
        | '}' :: tail => some (.record [], tail)
        | rest => (pairs? (value? depth) (rest.length + 1) [] rest).map fun (fields, tail) =>
            (.record (fieldsToData fields), tail)
    | c :: _ =>
      if c == '"' || c == '\'' then (string? cs).map fun (s, tail) => (.text (String.ofList s), tail)
      else
        match clock? cs with
        | some (true, tail) => some (.time (String.ofList (cs.take (cs.length - tail.length))), tail)
        | some (false, _) => none
        | none => number? cs

/-! ## Statements -/

inductive Statement where
  | table (key : List String)
  | item (key : List String)
  | assign (key : List String) (v : Datum)

def statement? (cs : List Char) : Option (Statement × List Char) :=
  match cs with
  | '[' :: '[' :: rest => do
    let (key, rest) ← key? rest.length (skipSpaces rest)
    match rest with
    | ']' :: ']' :: tail => return (.item key, tail)
    | _ => none
  | '[' :: rest => do
    let (key, rest) ← key? rest.length (skipSpaces rest)
    match rest with
    | ']' :: tail => return (.table key, tail)
    | _ => none
  | cs => do
    let ((key, v), tail) ← pair? (value? cs.length) cs
    return (.assign key v, tail)

def statements? : Nat → List Char → Option (List Statement)
  | 0, _ => none
  | fuel + 1, cs =>
    match skipSpaces cs with
    | [] => some []
    | '\n' :: rest => statements? fuel rest
    | '#' :: rest => do statements? fuel (← afterComment? ('#' :: rest))
    | cs => do
      let (s, rest) ← statement? cs
      match ← afterComment? (skipSpaces rest) with
      | [] => return [s]
      | '\n' :: rest => return s :: (← statements? fuel rest)
      | _ => none

/-- Puts statements into a tree: `path` is where the section with number `part` assigns its values. -/
def build? (part : Nat) (path : List String) (fields : Fields) : List Statement → Option Fields
  | [] => some fields
  | .assign key v :: rest => do build? part path (← update (assign part v key) path fields) rest
  | .table key :: rest => do
    let k ← key.getLast?
    build? (part + 1) key (← update (declare (part + 1) k) key.dropLast fields) rest
  | .item key :: rest => do
    let k ← key.getLast?
    build? (part + 1) key (← update (addTable k) key.dropLast fields) rest

def unifyLineEnds : List Char → List Char
  | '\r' :: '\n' :: rest => '\n' :: unifyLineEnds rest
  | c :: rest => c :: unifyLineEnds rest
  | [] => []

def parse? (s : String) : Option (List (String × Datum)) := do
  let cs := unifyLineEnds s.toList
  return fieldsToData (← build? 0 [] [] (← statements? (cs.length + 1) cs))

end SchemaConcord.Toml
