import SchemaConcord.Moment.Basic

/-!
# Schemas

The engine-independent picture of a database at one moment: tables with ordered columns, keys and constraints,
indexes and views. Indexes and views are absent when they were not looked at, which differs from having none.
-/

namespace SchemaConcord

structure ColumnReference where
  table : String
  column : String
  onDelete : Option String
  onUpdate : Option String
  deriving DecidableEq, Repr, Inhabited

structure Column where
  name : String
  type : String
  nullable : Bool
  unique : Bool
  autoIncrement : Bool
  default : Option String
  references : Option ColumnReference
  deriving DecidableEq, Repr, Inhabited

inductive ConstraintKind where
  | primaryKey | foreignKey | unique | check
  deriving DecidableEq, Repr, Inhabited

structure Constraint where
  name : String
  kind : ConstraintKind
  columns : List String
  definition : String
  referencesTable : Option String
  referencesColumns : Option (List String)
  deriving DecidableEq, Repr, Inhabited

structure Table where
  name : String
  columns : List Column
  primaryKey : Option (List String)
  constraints : List Constraint
  deriving DecidableEq, Repr, Inhabited

structure Index where
  table : String
  name : String
  columns : List String
  unique : Bool
  deriving DecidableEq, Repr, Inhabited

structure ViewColumn where
  name : String
  type : String
  deriving DecidableEq, Repr, Inhabited

structure View where
  name : String
  definition : String
  columns : List ViewColumn
  deriving DecidableEq, Repr, Inhabited

structure Snapshot where
  version : String
  capturedAt : Moment
  tables : List Table
  views : Option (List View)
  indexes : Option (List Index)
  deriving DecidableEq, Repr, Inhabited

namespace ConstraintKind

def word : ConstraintKind → String
  | .primaryKey => "primary_key"
  | .foreignKey => "foreign_key"
  | .unique => "unique"
  | .check => "check"

def all : List ConstraintKind := [.primaryKey, .foreignKey, .unique, .check]

end ConstraintKind

namespace Table

def column? (t : Table) (name : String) : Option Column := t.columns.find? (·.name = name)

def columnNames (t : Table) : List String := t.columns.map (·.name)

end Table

namespace Index

def key (i : Index) : String := i.table ++ "." ++ i.name

end Index

namespace Snapshot

def table? (s : Snapshot) (name : String) : Option Table := s.tables.find? (·.name = name)

def tableNames (s : Snapshot) : List String := s.tables.map (·.name)

end Snapshot

end SchemaConcord
