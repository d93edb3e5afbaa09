import SchemaConcord.Settings.Document
import SchemaConcord.Text.Quoted

/-!
# Engine profiles

What differs between the engines: the driver, the URL schemes that stand for it, the port, whether connections are
pooled, and how time limits and encryption are asked for.
-/

namespace SchemaConcord

open Text

inductive Encryption where
  /-- By an argument with a word for its value. -/
  | argument (word : String)
  /-- By an argument with an encryption context. -/
  | context
  | parameter (name value : String)
  | unsupported
  deriving DecidableEq, Repr

structure EngineProfile where
  kind : EngineKind
  driver : String
  /-- The URL schemes that stand for the driver, besides its own name. -/
  schemes : List String
  port : Option Int
  pooled : Bool
  /-- The argument for the time limit of connecting. -/
  timeoutArgument : String
  encryption : Encryption
  parameters : List (String × String)
  deriving DecidableEq, Repr

namespace EngineKind

def profile : EngineKind → EngineProfile
  | .postgres => ⟨.postgres, "postgresql+asyncpg", ["postgres", "postgresql", "postgresql+psycopg", "postgresql+psycopg2"],
      some 5432, true, "timeout", .argument "require", []⟩
  | .mysql => ⟨.mysql, "mysql+aiomysql", ["mysql", "mariadb", "mysql+pymysql"], some 3306, true, "connect_timeout",
      .context, []⟩
  | .sqlite => ⟨.sqlite, "sqlite+aiosqlite", ["sqlite"], none, false, "timeout", .unsupported, []⟩
  | .sqlserver => ⟨.sqlserver, "mssql+aioodbc", ["mssql", "sqlserver", "mssql+pyodbc"], some 1433, true, "timeout",
      .parameter "Encrypt" "yes", [("driver", "ODBC Driver 18 for SQL Server")]⟩

def ofWord? (word : String) : Option EngineKind := all.find? (·.word = word)

def unknownMessage (word : String) : String := quoted word ++ " is not a valid EngineKind"

end EngineKind

inductive UrlFault where
  | noScheme (raw : String)
  | otherEngine (scheme : String) (kind : EngineKind)
  | portNotWhole (port : String)
  | portMissing
  deriving DecidableEq, Repr

namespace UrlFault

def message : UrlFault → String
  | .noScheme raw => "Not a database URL: " ++ quoted raw
  | .otherEngine scheme kind => "URL scheme '" ++ scheme ++ "' does not match engine '" ++ kind.word ++ "'"
  | .portNotWhole port => "invalid literal for int() with base 10: " ++ quoted port
  | .portMissing => "Port argument must be an integer or None"

end UrlFault

namespace EngineProfile

def normalizeUrl (p : EngineProfile) (raw : String) : Except UrlFault String :=
  match cutAt? "://".toList raw.toList with
  | none => .error (.noScheme raw)
  | some (head, rest) =>
    let scheme := String.ofList head
    if scheme = p.driver || p.schemes.contains scheme then .ok (p.driver ++ "://" ++ String.ofList rest)
    else .error (.otherEngine scheme p.kind)

end EngineProfile

/-! ## Options -/

/-- The bounds of a pool as the driver takes them: connections kept, connections added under load, and times in
seconds. -/
structure PoolOptions where
  size : Int
  overflow : Int
  recycle : Int
  timeout : Binary64
  deriving DecidableEq, Repr

structure EngineOptions where
  arguments : List (String × Datum)
  pool : Option PoolOptions
  deriving DecidableEq, Repr

namespace EngineOptions

/-- The options as a record; connections are always probed before use. -/
def toDatum (o : EngineOptions) : Datum :=
  .record ([("pool_pre_ping", .flag true), ("echo", .flag false), ("connect_args", .record o.arguments)] ++
    match o.pool with
    | none => []
    | some p => [("pool_size", .int p.size), ("max_overflow", .int p.overflow), ("pool_recycle", .int p.recycle),
        ("pool_timeout", .real p.timeout)])

end EngineOptions

namespace EngineProfile

def encryptionArgument (p : EngineProfile) : List (String × Datum) :=
  match p.encryption with
  | .argument word => [("ssl", .text word)]
  | .context => [("ssl", .text "<SSLContext>")]
  | .parameter .. | .unsupported => []

/-- One connection at least is kept; what the settings allow above that is added under load. -/
def poolOptions (s : DatabaseSettings) : Except WholeFault PoolOptions := do
  let size := max s.pool.min 1
  return ⟨size, max (s.pool.max - size) 0, ← s.pool.idleTimeout.whole, s.connectTimeout⟩

def options (p : EngineProfile) (s : DatabaseSettings) : Except WholeFault EngineOptions := do
  let arguments := (p.timeoutArgument, .real s.connectTimeout) :: if s.ssl then p.encryptionArgument else []
  let pool ← if p.pooled then some <$> poolOptions s else pure none
  return ⟨arguments, pool⟩

end EngineProfile

end SchemaConcord
