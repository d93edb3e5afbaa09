import SchemaConcord.Route.Basic
import SchemaConcord.Text.Case
import SchemaConcord.Text.Edit

/-!
# Operations in SQL texts

What a statement does is inferred from its words alone. Statements are cut at semicolons; in each, the first
occurrence of one of the four statement forms counts, in any letter case.
-/

namespace SchemaConcord.SqlText

open Text

/-! ## Reading words -/

def afterWord? (word cs : List Char) : Option (List Char) :=
  match word, cs with
  | [], cs => some cs
  | w :: ws, c :: cs => if sameLetter w c then afterWord? ws cs else none
  | _ :: _, [] => none

def afterBlanks? (cs : List Char) : Option (List Char) :=
  if (cs.head?.map isBlank).getD false then some (cs.dropWhile isBlank) else none

def startsWord (before : Option Char) (cs : List Char) : Bool :=
  (before.map isWord).getD false != (cs.head?.map isWord).getD false

def endsWord (cs : List Char) : Bool := !(cs.head?.map isWord).getD false

def isTableChar (c : Char) : Bool := isWord c || ['.', '"', Char.ofNat 96, '[', ']'].contains c

def table? (cs : List Char) : Option (List Char × List Char) := do
  let rest ← afterBlanks? cs
  let name := rest.takeWhile isTableChar
  if name.isEmpty then none else return (name, rest.dropWhile isTableChar)

/-! ## Statement forms -/

/-- What a statement form yields: the table name as written and the text of the columns. -/
structure Form where
  table : List Char
  columns : Option (List Char) := none

/-- The text before the first `from` that a table name follows, and that name. -/
def upToFrom? (before : Option Char) : List Char → Option Form
  | [] => none
  | c :: rest =>
    let here := if startsWord before (c :: rest) then
        (afterWord? "from".toList (c :: rest)).bind table?
      else none
    match here with
    | some (name, _) => some ⟨name, some []⟩
    | none => (upToFrom? (some c) rest).map fun f => { f with columns := f.columns.map (c :: ·) }

def select? (cs : List Char) : Option Form := do
  let rest ← afterWord? "select".toList cs
  if endsWord rest then upToFrom? (some 't') rest else none

def parenthesized? (cs : List Char) : Option (List Char) :=
  match cs.dropWhile isBlank with
  | '(' :: rest =>
    let inside := rest.takeWhile (· != ')')
    if inside.length < rest.length then some inside else none
  | _ => none

def insert? (cs : List Char) : Option Form := do
  let rest ← afterBlanks? (← afterWord? "insert".toList cs)
  let (name, rest) ← table? (← afterWord? "into".toList rest)
  return ⟨name, parenthesized? rest⟩

def endsAssignments (before : Option Char) (cs : List Char) : Bool :=
  cs == [] || cs == ['\n'] ||
    (startsWord before cs && ["where", "returning", "from"].any fun w =>
      ((afterWord? w.toList cs).map endsWord).getD false)

def assignments (before : Option Char) : List Char → List Char
  | [] => []
  | c :: rest => if endsAssignments before (c :: rest) then [] else c :: assignments (some c) rest

def update? (cs : List Char) : Option Form := do
  let (name, rest) ← table? (← afterWord? "update".toList cs)
  let rest ← afterBlanks? rest
  let rest ← afterBlanks? (← afterWord? "set".toList rest)
  return ⟨name, some (assignments (some ' ') rest)⟩

def delete? (cs : List Char) : Option Form := do
  let rest ← afterBlanks? (← afterWord? "delete".toList cs)
  let (name, _) ← table? (← afterWord? "from".toList rest)
  return ⟨name, none⟩

def form? (cs : List Char) : Option (OperationKind × Form) :=
  ((select? cs).map (OperationKind.select, ·)).or <|
    ((insert? cs).map (OperationKind.insert, ·)).or <|
      ((update? cs).map (OperationKind.update, ·)).or <|
        (delete? cs).map (OperationKind.delete, ·)

def firstForm? (before : Option Char) : List Char → Option (OperationKind × Form)
  | [] => none
  | c :: rest =>
    match if startsWord before (c :: rest) then form? (c :: rest) else none with
    | some f => some f
    | none => firstForm? (some c) rest

/-! ## Columns -/

def isQuote (c : Char) : Bool := c == '"' || c.toNat == 96

def simpleColumn? (cs : List Char) : Option (List Char) := do
  let qualifier := cs.takeWhile fun c => isWord c || isQuote c
  let rest := match qualifier, cs.drop qualifier.length with
    | _ :: _, '.' :: tail => tail
    | _, _ => cs
  let rest := if (rest.head?.map isQuote).getD false then rest.drop 1 else rest
  let name := rest.takeWhile isWord
  let rest := rest.dropWhile isWord
  let rest := if (rest.head?.map isQuote).getD false then rest.drop 1 else rest
  if name.isEmpty then none
  if rest.isEmpty then return name
  let other ← afterBlanks? (← afterWord? "as".toList (← afterBlanks? rest))
  if !other.isEmpty && other.all isWord then return name else none

def selectColumns (text : List Char) : Option (List String) :=
  let text := match (afterWord? "distinct".toList (text.dropWhile isBlank)).bind afterBlanks? with
    | some rest => rest
    | none => text
  let text := trim isBlank text
  if text == [] || text == ['*'] then none
  else (splitAt (· == ',') text).mapM fun part => (simpleColumn? (trim isBlank part)).map String.ofList

def isDecoration (c : Char) : Bool := isQuote c || c == '[' || c == ']'

def insertColumns (text : Option (List Char)) : Option (List String) := do
  let text ← text
  let names := (splitAt (· == ',') text).map fun part => part.filter fun c => !isDecoration c && !isBlank c
  let names := names.filter (!·.isEmpty)
  if names.isEmpty then none else return names.map String.ofList

def assigned? (cs : List Char) : Option (List Char × List Char) :=
  let rest := cs.dropWhile isBlank
  let rest := if (rest.head?.map fun c => isQuote c || c == '[').getD false then rest.drop 1 else rest
  let name := rest.takeWhile isWord
  let rest := rest.dropWhile isWord
  let rest := if (rest.head?.map fun c => isQuote c || c == ']').getD false then rest.drop 1 else rest
  match rest.dropWhile isBlank with
  | '=' :: tail => if name.isEmpty then none else some (name, tail)
  | _ => none

/-- The assigned columns that follow a comma; the first `skip` characters belong to one that has been read. -/
def assignedAfterCommas (skip : Nat) : List Char → List (List Char)
  | [] => []
  | c :: rest =>
    match skip with
    | n + 1 => assignedAfterCommas n rest
    | 0 => match if c == ',' then assigned? rest else none with
      | some (name, tail) => name :: assignedAfterCommas (rest.length - tail.length) rest
      | none => assignedAfterCommas 0 rest

def updateColumns (text : List Char) : Option (List String) :=
  let names := match assigned? text with
    | some (name, tail) => name :: assignedAfterCommas (text.length - tail.length) text
    | none => assignedAfterCommas 0 text
  if names.isEmpty then none else some (names.map String.ofList)

def tableName (raw : List Char) : String :=
  String.ofList (lower ((splitAt (· == '.') (raw.filter (!isDecoration ·))).getLast?.getD []))

/-! ## Operations -/

def operation (kind : OperationKind) (f : Form) : Operation :=
  { kind, table := tableName f.table
    columns := match kind with
      | .select => selectColumns (f.columns.getD [])
      | .insert => insertColumns f.columns
      | .update => updateColumns (f.columns.getD [])
      | .delete => none }

def operations (sql : String) : List Operation :=
  (splitAt (· == ';') sql.toList).filterMap fun statement =>
    (firstForm? none statement).map fun (kind, f) => operation kind f

end SchemaConcord.SqlText
