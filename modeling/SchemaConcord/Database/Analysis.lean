import SchemaConcord.Database.Reflection
import SchemaConcord.Files.Document
import SchemaConcord.Outcome
import SchemaConcord.Schema.Basic
import SchemaConcord.Schema.TypeText
import SchemaConcord.Text.Quoted

/-!
# Analysis

An analyzer turns what a database says about itself into a snapshot: types in their common spelling, a derived name
for every constraint without one, everything that has no order of its own sorted by name. The tables in which
migrations are kept are never part of the schema.
-/

namespace SchemaConcord

open Text

structure Analyzer where
  includeViews : Bool := true
  includeIndexes : Bool := true
  /-- Tables that are left out besides those of migration tools. -/
  excludedTables : List String := []
  /-- The part of the database to look at, the engine's default when absent. -/
  area : Option String := none
  deriving DecidableEq, Repr

inductive AnalysisFault where
  | failed (f : Failure)
  | timeout
  | model (fault : InvalidModel)
  deriving DecidableEq, Repr

def AnalysisFault.message : AnalysisFault → String
  | .failed f => f.message
  | .timeout => ""
  | .model f => f.message

def bookkeepingTables : List String :=
  ["database_migrations", "alembic_version", "schema_migrations", "_prisma_migrations", "sqlite_sequence"]

namespace ReflectionFault

def message : ReflectionFault → String
  | .refused reason => reason
  | .unknownName name => quoted name

end ReflectionFault

namespace ReflectedType

def normal : ReflectedType → String
  | .text s => TypeText.normalize s
  | .unwritten name => lowercase name

end ReflectedType

def givenName (name : Option String) (derived : String) : String := (name.filter (!·.isEmpty)).getD derived

def derivedName (table : String) (parts : List String) (tail : String) : String :=
  joinWith "_" (table :: parts ++ [tail])

def columnList (columns : List String) : String := joinWith ", " columns

/-! ## Constraints -/

namespace ReflectedForeignKey

def deletion? (k : ReflectedForeignKey) : Option String := k.onDelete.filter (!·.isEmpty)

def toConstraint (table : String) (k : ReflectedForeignKey) : Constraint :=
  { name := givenName k.name (derivedName table k.columns "fkey")
    kind := .foreignKey
    columns := k.columns
    definition := "FOREIGN KEY (" ++ columnList k.columns ++ ") REFERENCES " ++ k.targetTable ++ " (" ++
      columnList k.targetColumns ++ ")" ++ ((k.deletion?.map fun d => " ON DELETE " ++ uppercase d).getD "")
    referencesTable := some k.targetTable
    referencesColumns := some k.targetColumns }

/-- The column of a key that has one column on both sides, and what it points to. -/
def reference? (k : ReflectedForeignKey) : Option (String × ColumnReference) :=
  match k.columns, k.targetColumns with
  | [c], [target] => some (c, ⟨k.targetTable, target, k.onDelete, k.onUpdate⟩)
  | _, _ => none

end ReflectedForeignKey

namespace ReflectedKey

def toPrimaryKey? (table : String) (k : ReflectedKey) : Option Constraint :=
  if k.columns.isEmpty then none
  else some ⟨givenName k.name (derivedName table [] "pkey"), .primaryKey, k.columns,
    "PRIMARY KEY (" ++ columnList k.columns ++ ")", none, none⟩

def toUnique (table : String) (k : ReflectedKey) : Constraint :=
  ⟨givenName k.name (derivedName table k.columns "key"), .unique, k.columns, "UNIQUE (" ++ columnList k.columns ++ ")",
    none, none⟩

end ReflectedKey

/-- A check constraint; `position` counts those of the table from 1. -/
def ReflectedCheck.toConstraint (table : String) (position : Nat) (c : ReflectedCheck) : Constraint :=
  ⟨givenName c.name (derivedName table [toString position] "check"), .check, [], "CHECK (" ++ c.text ++ ")", none, none⟩

namespace ReflectedIndex

def named (i : ReflectedIndex) : List String := (i.columns.filterMap id).filter (!·.isEmpty)

def toIndex (table : String) (i : ReflectedIndex) : Index := ⟨table, i.name, i.named, i.unique⟩

end ReflectedIndex

/-! ## Tables -/

def sole? : List α → Option α
  | [a] => some a
  | _ => none

def integerTypes : List String := ["integer", "int", "bigint", "smallint", "int4", "int8", "int2"]

namespace ReflectedColumn

/-- Whether the database counts a column up. In SQLite a whole number that is the primary key alone is the row's own
number. -/
def countsUp (c : ReflectedColumn) (dialect : String) (primaryKey : List String) : Bool :=
  c.autoIncrement || c.identity || (c.default.any fun d => hasHead (lowercase d) "nextval(") ||
    (dialect = "sqlite" && primaryKey = [c.name] && integerTypes.contains c.type.normal)

end ReflectedColumn

namespace ReflectedTable

def uniqueColumns (t : ReflectedTable) (includeIndexes : Bool) : List String :=
  t.uniques.filterMap (fun k => sole? k.columns) ++
    if includeIndexes then (t.indexes.filter (·.unique)).filterMap fun i => sole? i.named else []

def constraints (t : ReflectedTable) (name : String) : List Constraint :=
  ((t.primaryKey.toPrimaryKey? name).toList ++ t.foreignKeys.map (ReflectedForeignKey.toConstraint name) ++
    t.uniques.map (ReflectedKey.toUnique name) ++
    ((t.checks.getD []).zipIdx 1).map fun (c, k) => ReflectedCheck.toConstraint name k c).mergeSort
    fun a b => textLe a.name b.name

def reference? (t : ReflectedTable) (column : String) : Option ColumnReference :=
  (t.foreignKeys.filterMap ReflectedForeignKey.reference?).reverse.lookup column

/-- The column of a snapshot. A column of the primary key never allows null. -/
def toColumn (t : ReflectedTable) (dialect : String) (includeIndexes : Bool) (c : ReflectedColumn) : Column :=
  { name := c.name
    type := c.type.normal
    nullable := c.nullable && !t.primaryKey.columns.contains c.name
    unique := (t.uniqueColumns includeIndexes).contains c.name
    autoIncrement := c.countsUp dialect t.primaryKey.columns
    default := c.default
    references := t.reference? c.name }

def toTable (t : ReflectedTable) (dialect : String) (includeIndexes : Bool) (name : String)
    (columns : List ReflectedColumn) : Table :=
  { name
    columns := columns.map (t.toColumn dialect includeIndexes)
    primaryKey := if t.primaryKey.columns.isEmpty then none else some t.primaryKey.columns
    constraints := t.constraints name }

end ReflectedTable

/-! ## Snapshots -/

namespace Analyzer

def excludes (a : Analyzer) (table : String) : Bool :=
  bookkeepingTables.contains table || a.excludedTables.contains table

def areas (a : Analyzer) : List String := [a.area.getD "default"]

def tableOf (a : Analyzer) (r : Reflection) (item : String × ReflectedTable) : Except ReflectionFault Table := do
  let columns ← r.columnsOf item.1
  r.ask .primaryKey ()
  r.ask .foreignKeys ()
  r.ask .uniques ()
  r.ask .checks ()
  if a.includeIndexes then r.ask .indexes ()
  return item.2.toTable r.dialect a.includeIndexes item.1 columns

def indexesOf (r : Reflection) (item : String × ReflectedTable) : Except ReflectionFault (List Index) := do
  let indexes ← r.ask .indexes item.2.indexes
  return (indexes.filter (!·.duplicatesConstraint)).map (ReflectedIndex.toIndex item.1)

def viewOf (r : Reflection) (item : String × ReflectedView) : Except ReflectionFault View := do
  let definition ← r.ask .viewDefinition (item.2.definition.getD "")
  let columns ← r.columnsOf item.1
  return ⟨item.1, collapseBlanks definition, columns.map fun c => ⟨c.name, c.type.normal⟩⟩

def byName (l : List (String × α)) : List (String × α) := l.mergeSort fun a b => textLe a.1 b.1

def indexLe (a b : Index) : Bool := if a.table = b.table then textLe a.name b.name else textLe a.table b.table

def look (a : Analyzer) (r : Reflection) (now : Moment) : Except ReflectionFault Snapshot := do
  let listed ← r.ask .tableNames r.tables
  let kept := byName (listed.filter fun item => !a.excludes item.1)
  let tables ← kept.mapM (a.tableOf r)
  let indexes ← if a.includeIndexes then do
      let all ← kept.mapM (indexesOf r)
      pure (some (all.flatten.mergeSort indexLe))
    else pure none
  let views ← if a.includeViews then do
      let listed ← r.ask .viewNames r.views
      some <$> (byName listed).mapM (viewOf r)
    else pure none
  return { version := now.isoText, capturedAt := now, tables, views, indexes }

def failure (details : String) : Failure := ⟨.analysisFailed, "Failed to analyze database schema", details⟩

def analyze (a : Analyzer) (r : Reflection) (now : Moment) : Except Failure Snapshot :=
  (a.look r now).mapError fun f => failure f.message

end Analyzer

end SchemaConcord
