import SchemaConcord.Naming.Words
import SchemaConcord.Schema.Basic

/-!
# The table of a form

A form edits the table that its name stands for: as written in snake case, as singular or as plural, and then the
same without the words around a name that say what the form does.
-/

namespace SchemaConcord

open Text Naming

def formHeads : List String := ["create", "edit", "update", "new", "add"]

def formTails : List String := ["form", "page", "view", "component"]

def stripAffixes (name : String) : String :=
  let parts := (splitChar '_' name).filter (!·.isEmpty)
  joinWith "_" ((parts.dropWhile formHeads.contains).reverse.dropWhile formTails.contains).reverse

def spellings (name : String) : List String := [name, singularize name, pluralize name]

namespace Snapshot

/-- The table of a spelling: one of this name in lower case, else one of the same letters and digits; of several, the
last. -/
def spelled? (s : Snapshot) (spelling : String) : Option Table :=
  s.tables.reverse.find? (fun t => lowercase t.name = spelling) <|>
    s.tables.reverse.find? (fun t => compact t.name = compact spelling)

def formTable? (s : Snapshot) (form : String) : Option Table :=
  let name := snakeCase form
  let stripped := stripAffixes name
  (spellings name).findSome? s.spelled? <|>
    if stripped.isEmpty || stripped = name then none else (spellings stripped).findSome? s.spelled?

end Snapshot

end SchemaConcord
