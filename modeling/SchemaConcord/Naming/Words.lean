import SchemaConcord.Text.Case
import SchemaConcord.Text.Edit

/-!
# Names and their spellings

English plural and singular of identifiers, and the spellings by which tables, routes, forms and fields find each
other: snake case, kebab case, Pascal case and the compact spelling that keeps ASCII letters and digits only.
-/

namespace SchemaConcord.Naming

open Text

def isVowel (c : Char) : Bool := ['a', 'e', 'i', 'o', 'u'].contains c

def secondLast? (s : String) : Option Char := s.toList.reverse[1]?

/-- English plural; a word that already ends like a plural is kept. -/
def pluralize (word : String) : String :=
  let low := lowercase word
  if word.isEmpty then word
  else if hasTail low "y" && 1 < word.length && !((secondLast? low).map isVowel).getD false then
    dropLast 1 word ++ "ies"
  else if hasTailIn low ["ss", "us", "is", "x", "z", "ch", "sh"] then word ++ "es"
  else if hasTail low "s" then word
  else word ++ "s"

def singularize (word : String) : String :=
  let low := lowercase word
  if hasTail low "ies" && 3 < word.length then dropLast 3 word ++ "y"
  else if hasTailIn low ["sses", "uses", "xes", "zes", "ches", "shes"] then dropLast 2 word
  else if hasTail low "s" && !hasTailIn low ["ss", "us", "is"] then dropLast 1 word
  else word

/-- An underscore before the last capital of a run of capitals that a small letter follows; `inRun` says that the
character before is a capital. -/
def markAcronyms (inRun : Bool) : List Char → List Char
  | [] => []
  | c :: rest =>
    let here := isAsciiUpper c
    let ends := inRun && here && (rest.head?.map isAsciiLower).getD false
    (if ends then ['_', c] else [c]) ++ markAcronyms here rest

def markHumps (afterSmall : Bool) : List Char → List Char
  | [] => []
  | c :: rest =>
    (if afterSmall && isAsciiUpper c then ['_', c] else [c]) ++ markHumps (isAsciiLower c || isAsciiDigit c) rest

def isSeparator (c : Char) : Bool := c == '-' || isBlank c

def snakeCase (name : String) : String :=
  onChars (fun cs => lower (squeeze isSeparator ['_'] (markHumps false (markAcronyms false (trim isBlank cs))))) name

def kebabCase (name : String) : String := onChars (·.map fun c => if c == '_' then '-' else c) (snakeCase name)

def capitalize (s : String) : String := onChars (fun cs => upper (cs.take 1) ++ cs.drop 1) s

def pascalCase (name : String) : String := String.join ((splitChar '_' (snakeCase name)).map capitalize)

def compact (name : String) : String := onChars (fun cs => (lower cs).filter fun c => isAsciiLower c || isAsciiDigit c) name

end SchemaConcord.Naming
