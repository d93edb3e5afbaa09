/-!
# Reflections

What a database says about itself: its tables with columns, keys, constraints and indexes, and its views, all as
they are told. A database may refuse to answer a kind of inquiry, and it knows nothing of names it did not list.
-/

namespace SchemaConcord

/-- A column's type: its text, or the name of a type that has no text in the dialect. -/
inductive ReflectedType where
  | text (text : String)
  | unwritten (name : String)
  deriving DecidableEq, Repr

structure ReflectedColumn where
  name : String
  type : ReflectedType
  nullable : Bool
  default : Option String
  /-- The database says that it counts the column up. -/
  autoIncrement : Bool
  identity : Bool
  deriving DecidableEq, Repr

structure ReflectedKey where
  name : Option String
  columns : List String
  deriving DecidableEq, Repr

structure ReflectedForeignKey where
  name : Option String
  columns : List String
  targetTable : String
  targetColumns : List String
  onDelete : Option String
  onUpdate : Option String
  deriving DecidableEq, Repr

structure ReflectedCheck where
  name : Option String
  text : String
  deriving DecidableEq, Repr

structure ReflectedIndex where
  name : String
  /-- The columns; an expression in place of a column has no name. -/
  columns : List (Option String)
  unique : Bool
  /-- The index stands behind a unique constraint. -/
  duplicatesConstraint : Bool
  deriving DecidableEq, Repr

structure ReflectedTable where
  /-- Absent when the database lists the table and nothing else of it. -/
  columns : Option (List ReflectedColumn)
  primaryKey : ReflectedKey
  foreignKeys : List ReflectedForeignKey
  uniques : List ReflectedKey
  /-- Absent when the engine does not tell check constraints. -/
  checks : Option (List ReflectedCheck)
  indexes : List ReflectedIndex
  deriving DecidableEq, Repr

structure ReflectedView where
  /-- Absent when the engine does not tell it. -/
  definition : Option String
  columns : List ReflectedColumn
  deriving DecidableEq, Repr

inductive Inquiry where
  | tableNames | viewNames | columns | primaryKey | foreignKeys | uniques | checks | indexes | viewDefinition
  deriving DecidableEq, Repr

structure Reflection where
  dialect : String
  tables : List (String × ReflectedTable)
  views : List (String × ReflectedView)
  /-- Inquiries that are refused, with the reason. -/
  refusals : List (Inquiry × String)
  deriving DecidableEq, Repr

inductive ReflectionFault where
  | refused (reason : String)
  | unknownName (name : String)
  deriving DecidableEq, Repr

namespace Reflection

def ask (r : Reflection) (i : Inquiry) (answer : α) : Except ReflectionFault α :=
  match r.refusals.lookup i with
  | some reason => .error (.refused reason)
  | none => .ok answer

def columnsOf (r : Reflection) (name : String) : Except ReflectionFault (List ReflectedColumn) := do
  match ← r.ask .columns (((r.tables.lookup name).bind (·.columns)) <|> (r.views.lookup name).map (·.columns)) with
  | some columns => return columns
  | none => throw (.unknownName name)

end Reflection

end SchemaConcord
