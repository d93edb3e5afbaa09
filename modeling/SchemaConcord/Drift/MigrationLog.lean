import SchemaConcord.Datum.Parts
import SchemaConcord.Decimal.Read
import SchemaConcord.Text.Quoted

/-!
# The migration log

Migrations are recorded in a table of the database. Its configured name goes into a statement as it stands, so it
is let through only when it is an ASCII identifier, or two of them joined by a point; a line end after it is
ignored by the check.
-/

namespace SchemaConcord.MigrationLog

open Text

def isNameHead (c : Char) : Bool := isAsciiLetter c || c == '_'

def isNameTail (c : Char) : Bool := isAsciiLetter c || c == '_' || isAsciiDigit c

def afterName? : List Char → Option (List Char)
  | [] => none
  | c :: rest => if isNameHead c then some (rest.dropWhile isNameTail) else none

def atEnd (cs : List Char) : Bool := cs == [] || cs == ['\n']

def isTableName (cs : List Char) : Bool :=
  match afterName? cs with
  | none => false
  | some ('.' :: rest) => match afterName? rest with
    | some tail => atEnd tail
    | none => false
  | some tail => atEnd tail

inductive Error where
  | badTableName (name : String)
  deriving DecidableEq, Repr

def Error.message : Error → String
  | .badTableName name => "Invalid migration table name: " ++ quoted name

/-- The statement that counts the completed migrations after one version and up to another. -/
def countSql (table : String) : Except Error String :=
  if isTableName table.toList then
    .ok ("SELECT COUNT(*) AS count FROM " ++ table ++
      " WHERE version > :from_version AND version <= :to_version AND status = 'completed'")
  else .error (.badTableName table)

inductive CountFault where
  | missing
  | kind (v : Datum)
  | text (s : String)
  | number (fault : WholeFault)
  deriving DecidableEq, Repr

def shownLength : Nat := 200

def CountFault.message : CountFault → String
  | .missing => quoted "count"
  | .kind v => "int() argument must be a string, a bytes-like object or a real number, not " ++ quoted v.kindWord
  | .text s => "invalid literal for int() with base 10: " ++ onChars (·.take shownLength) (quoted s)
  | .number f => f.message

/-- A count as a database tells it: a whole number, a number to be cut, a truth value, or a text. -/
def readCount : Datum → Except CountFault Int
  | .int n => .ok n
  | .flag b => .ok (if b then 1 else 0)
  | .real x => x.whole.mapError .number
  | .text s => match readInteger? s with
    | some n => .ok n
    | none => .error (.text s)
  | v => .error (.kind v)

/-- Whether the rows of an answer tell of a migration; only the first one counts. -/
def tellsOfSome : List (List (String × Datum)) → Except CountFault Bool
  | [] => .ok false
  | row :: _ => match row.lookup "count" with
    | none => .error .missing
    | some v => (readCount v).map (0 < ·)

end SchemaConcord.MigrationLog
