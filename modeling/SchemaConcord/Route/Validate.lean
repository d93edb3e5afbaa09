import SchemaConcord.Route.Crud
import SchemaConcord.Route.Path

/-!
# Routes against a schema

A route is invalid when an operation of it names a table or column that the schema does not have. Tables are found
leniently: in any letter case, as singular or plural, as written or in snake case. A parameter that names another
table's identifier gives a warning when there is no such table. The expected routes that no route matches are
missing.
-/

namespace SchemaConcord

open Text

/-- The names under which a table may be found for a name, most direct first. -/
def tableVariants (name : String) : List String :=
  [name, Naming.snakeCase name].flatMap fun n =>
    let low := lowercase n
    [low, Naming.singularize low, Naming.pluralize low]

/-- The table that a name stands for; of tables whose names differ in letter case only, the last one. -/
def Snapshot.lookup? (s : Snapshot) (name : String) : Option Table :=
  (tableVariants name).findSome? fun v => s.tables.reverse.find? fun t => lowercase t.name = v

structure InvalidRoute where
  route : Route
  reasons : List String
  deriving DecidableEq, Repr

structure RouteFindings where
  routes : List Route
  valid : List Route
  invalid : List InvalidRoute
  missing : List Route
  generatedStubs : List String
  warnings : List String
  deriving Repr

namespace RouteFindings

def isValid (f : RouteFindings) : Bool := f.invalid.isEmpty && f.missing.isEmpty

end RouteFindings

/-- The columns of an operation that a table has neither as written nor in snake case. -/
def Operation.columnReasons (o : Operation) (t : Table) : List String :=
  ((o.columns.getD []).filter fun c => (t.column? c).isNone && (t.column? (Naming.snakeCase c)).isNone).map
    fun c => "Column '" ++ t.name ++ "." ++ c ++ "' does not exist"

def Operation.reasons (s : Snapshot) (o : Operation) : List String :=
  match s.lookup? o.table with
  | none => ["Table '" ++ o.table ++ "' does not exist (" ++ o.kind.word ++ ")"]
  | some t => o.columnReasons t

namespace Route

def reasons (s : Snapshot) (r : Route) : List String := r.operations.flatMap (Operation.reasons s)

def parameterWarnings (s : Snapshot) (r : Route) : List String :=
  r.parameters.filterMap fun p =>
    match if p.location = .path then RoutePath.identifierBase? p.name else none with
    | some base =>
      if (s.lookup? base).isNone then
        some ("Path parameter '" ++ p.name ++ "' in " ++ r.key ++ " does not match any table")
      else none
    | none => none

def covers (r expected : Route) : Bool := r.method = expected.method && RoutePath.pathsMatch r.path expected.path

end Route

def Snapshot.missingRoutes (s : Snapshot) (routes : List Route) : List Route :=
  (s.tables.flatMap Table.crudRoutes).filter fun e => !routes.any (·.covers e)

def Snapshot.checkRoutes (s : Snapshot) (routes : List Route) : RouteFindings :=
  { routes
    valid := routes.filter fun r => (r.reasons s).isEmpty
    invalid := (routes.filter fun r => !(r.reasons s).isEmpty).map fun r => ⟨r, r.reasons s⟩
    missing := s.missingRoutes routes
    generatedStubs := []
    warnings := routes.flatMap (Route.parameterWarnings s) }

end SchemaConcord
