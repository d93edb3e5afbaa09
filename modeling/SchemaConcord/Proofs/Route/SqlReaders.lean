import SchemaConcord.Route.Sql

/-!
# Steps of reading a statement

The readers of columns and brackets, taken apart into steps that each do one thing: take off a qualifier or a quote,
look at what follows a name.
-/

namespace SchemaConcord.SqlText

open Text

/-! ## Brackets -/

theorem parenthesized?_of_open {cs rest : List Char} (h : cs.dropWhile isBlank = '(' :: rest) :
    parenthesized? cs = if (rest.takeWhile (· != ')')).length < rest.length then some (rest.takeWhile (· != ')'))
      else none := by
  rw [parenthesized?, h]
  rfl

theorem parenthesized?_eq_none {cs : List Char} (h : (cs.dropWhile isBlank).head? ≠ some '(') :
    parenthesized? cs = none := by
  unfold parenthesized?
  split
  · next rest hrest =>
    rw [hrest] at h
    exact absurd rfl h
  · rfl

/-! ## Names of columns -/

/-- The text without its first character, if that is of the class. -/
def without (p : Char → Bool) (cs : List Char) : List Char := if (cs.head?.map p).getD false then cs.drop 1 else cs

def isQualifying (c : Char) : Bool := isWord c || isQuote c

/-- The text after a qualifier and its dot. -/
def unqualified (cs : List Char) : List Char :=
  match cs.takeWhile isQualifying, cs.drop (cs.takeWhile isQualifying).length with
  | _ :: _, '.' :: tail => tail
  | _, _ => cs

theorem unqualified_of_dot {cs tail : List Char} (hne : cs.takeWhile isQualifying ≠ [])
    (hdot : cs.drop (cs.takeWhile isQualifying).length = '.' :: tail) : unqualified cs = tail := by
  obtain ⟨c, rest, hrest⟩ := List.exists_cons_of_ne_nil hne
  rw [unqualified, hdot, hrest]
  rfl

theorem unqualified_of_ne {cs : List Char}
    (h : cs.takeWhile isQualifying = [] ∨ (cs.drop (cs.takeWhile isQualifying).length).head? ≠ some '.') :
    unqualified cs = cs := by
  unfold unqualified
  split
  · next hqualifier hdot =>
    rw [hdot, hqualifier] at h
    simp at h
  · rfl

/-- Nothing follows the name of a column, or another name for it. -/
def endsColumn (rest : List Char) : Bool :=
  rest.isEmpty || (((afterBlanks? rest).bind (afterWord? "as".toList)).bind afterBlanks?).any fun other =>
    !other.isEmpty && other.all isWord

/-- A column is a name without its qualifier and quotes, at the end of the text or before another name. -/
theorem simpleColumn?_eq (cs : List Char) : simpleColumn? cs =
    let named := without isQuote (unqualified cs)
    let name := named.takeWhile isWord
    if !name.isEmpty && endsColumn (without isQuote (named.dropWhile isWord)) then some name else none := by
  unfold simpleColumn?
  extract_lets qualifier unqualified named name quoted rest
  show (if name.isEmpty = true then _ else _) = if (!name.isEmpty && endsColumn rest) = true then some name else none
  cases name.isEmpty with
  | true => rfl
  | false =>
    show (if rest.isEmpty = true then some name else (afterBlanks? rest).bind fun rest =>
      (afterWord? "as".toList rest).bind fun rest => (afterBlanks? rest).bind fun other =>
        if (!other.isEmpty && other.all isWord) = true then some name else none) =
      if endsColumn rest = true then some name else none
    rw [endsColumn]
    cases rest.isEmpty with
    | true => rfl
    | false =>
      cases afterBlanks? rest with
      | none => rfl
      | some rest =>
        rw [Option.bind_some, Option.bind_some]
        cases afterWord? "as".toList rest with
        | none => rfl
        | some rest =>
          rw [Option.bind_some, Option.bind_some]
          cases afterBlanks? rest <;> rfl

/-! ## Assignments -/

def opensName (c : Char) : Bool := isQuote c || c == '['

def closesName (c : Char) : Bool := isQuote c || c == ']'

/-- The text from the name that is assigned to. -/
def assignee (cs : List Char) : List Char := without opensName (cs.dropWhile isBlank)

/-- The text after the name that is assigned to. -/
def afterAssignee (cs : List Char) : List Char :=
  (without closesName ((assignee cs).dropWhile isWord)).dropWhile isBlank

/-- The name and the text after the sign of equality, if both are there. -/
def assignment? (name : List Char) : List Char → Option (List Char × List Char)
  | '=' :: tail => if name.isEmpty then none else some (name, tail)
  | _ => none

theorem assigned?_eq (cs : List Char) :
    assigned? cs = assignment? ((assignee cs).takeWhile isWord) (afterAssignee cs) := rfl

theorem assigned?_of_equals {cs tail : List Char} (h : afterAssignee cs = '=' :: tail) :
    assigned? cs = if ((assignee cs).takeWhile isWord).isEmpty then none
      else some ((assignee cs).takeWhile isWord, tail) := by
  rw [assigned?_eq, h, assignment?]

theorem assigned?_eq_none {cs : List Char} (h : (afterAssignee cs).head? ≠ some '=') : assigned? cs = none := by
  rw [assigned?_eq]
  unfold assignment?
  split
  · next tail htail =>
    rw [htail] at h
    exact absurd rfl h
  · rfl

/-! ## Selected columns -/

/-- The text without the word that asks for different rows. -/
def withoutDistinct (text : List Char) : List Char :=
  match (afterWord? "distinct".toList (text.dropWhile isBlank)).bind afterBlanks? with
  | some rest => rest
  | none => text

theorem selectColumns_eq (text : List Char) : selectColumns text =
    if trim isBlank (withoutDistinct text) == [] || trim isBlank (withoutDistinct text) == ['*'] then none
    else (splitAt (· == ',') (trim isBlank (withoutDistinct text))).mapM fun part =>
      (simpleColumn? (trim isBlank part)).map String.ofList := rfl

/-! ## Columns given values -/

def isBare (c : Char) : Bool := !isDecoration c && !isBlank c

/-- The names between the brackets of an insertion. -/
def insertedNames (text : List Char) : List (List Char) :=
  ((splitAt (· == ',') text).map fun part => part.filter isBare).filter (!·.isEmpty)

theorem insertColumns_some (text : List Char) : insertColumns (some text) =
    if (insertedNames text).isEmpty then none else some ((insertedNames text).map String.ofList) := rfl

/-- The names that an update assigns to. -/
def assignedNames (text : List Char) : List (List Char) :=
  match assigned? text with
  | some (name, tail) => name :: assignedAfterCommas (text.length - tail.length) text
  | none => assignedAfterCommas 0 text

theorem updateColumns_eq (text : List Char) : updateColumns text =
    if (assignedNames text).isEmpty then none else some ((assignedNames text).map String.ofList) := rfl

/-! ## Statements -/

/-- The operation of one statement. -/
def statementOperation? (statement : List Char) : Option Operation :=
  (firstForm? none statement).map fun found => operation found.1 found.2

theorem operations_eq (sql : String) :
    operations sql = (splitAt (· == ';') sql.toList).filterMap statementOperation? := rfl

end SchemaConcord.SqlText
