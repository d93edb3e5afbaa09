import SchemaConcord.Digest.Sha256
import SchemaConcord.Json.Printer
import SchemaConcord.Schema.Basic
import SchemaConcord.Text.Edit

/-!
# Structural fingerprints

The fingerprint of a schema is the digest of a canonical text of its structure: table names with the name, type and
nullability of their columns, all in the order of names. Versions, times and the order of lists do not count.
-/

namespace SchemaConcord.Snapshot

open Text

/-- Entries in the order of their names; entries of one name keep their order. -/
def byName (name : α → String) (l : List α) : List α := l.mergeSort fun a b => textLe (name a) (name b)

def columnStructure (c : Column) : Datum :=
  .record [("name", .text c.name), ("nullable", .flag c.nullable), ("type", .text c.type)]

def tableStructure (t : Table) : Datum :=
  .record [("columns", .list ((byName Column.name t.columns).map columnStructure)), ("name", .text t.name)]

def structureText (s : Snapshot) : String :=
  Json.compact (.list ((byName Table.name s.tables).map tableStructure))

def fingerprint (s : Snapshot) : String := Sha256.hexDigest s.structureText.toUTF8.toList

end SchemaConcord.Snapshot
