import SchemaConcord.Datum.Reader

/-!
# Settings

What a configuration file decides: the database and its pool, drift detection, the validation of routes and forms,
and the logging level. Every setting has a default.
-/

namespace SchemaConcord

inductive EngineKind where
  | postgres | mysql | sqlite | sqlserver
  deriving DecidableEq, Repr, Inhabited

structure PoolSettings where
  min : Int := 2
  max : Int := 10
  idleTimeout : Binary64 := .ofInt 30
  deriving DecidableEq, Repr, Inhabited

structure DatabaseSettings where
  engine : EngineKind := .postgres
  url : Option String := none
  host : String := "localhost"
  port : Option Int := none
  database : String := ""
  username : Option String := none
  password : Option String := none
  /-- Fills the password placeholder of a URL. -/
  dbPassword : Option String := none
  ssl : Bool := false
  connectTimeout : Binary64 := .ofInt 5
  pool : PoolSettings := {}
  deriving DecidableEq, Repr, Inhabited

structure DriftSettings where
  enabled : Bool := true
  autoFix : Bool := false
  baselinePath : String := "schema/schema.json"
  reportDirectory : String := "drift-reports"
  webhook : Option String := none
  migrationTable : String := "database_migrations"
  timeout : Binary64 := .ofInt 30
  notificationTimeout : Binary64 := .ofInt 10
  allowedDrifts : List String := []
  ignoreTables : List String := []
  ignoreColumns : List String := []
  deriving DecidableEq, Repr, Inhabited

def defaultRoutePatterns : List String :=
  ["**/routes/**/*.py", "**/api/**/*.py", "**/controllers/**/*.py", "**/routers/**/*.py"]

def defaultFormPatterns : List String :=
  ["**/templates/**/*.html", "**/templates/**/*.jinja", "**/templates/**/*.jinja2", "**/templates/**/*.j2",
    "**/components/**/*.vue", "**/views/**/*.vue", "**/pages/**/*.vue", "**/forms/**/*.html",
    "**/components/**/*.svelte", "**/routes/**/*.svelte"]

structure RouteSettings where
  enabled : Bool := true
  patterns : List String := defaultRoutePatterns
  directories : List String := []
  strict : Bool := false
  outputDirectory : String := "routes"
  deriving DecidableEq, Repr, Inhabited

structure FormSettings where
  enabled : Bool := true
  patterns : List String := defaultFormPatterns
  directories : List String := []
  deriving DecidableEq, Repr, Inhabited

structure ValidationSettings where
  routes : RouteSettings := {}
  forms : FormSettings := {}
  deriving DecidableEq, Repr, Inhabited

structure LoggingSettings where
  level : String := "INFO"
  deriving DecidableEq, Repr, Inhabited

namespace EngineKind

def word : EngineKind → String
  | .postgres => "postgres"
  | .mysql => "mysql"
  | .sqlite => "sqlite"
  | .sqlserver => "sqlserver"

def all : List EngineKind := [.postgres, .mysql, .sqlite, .sqlserver]

end EngineKind

end SchemaConcord
