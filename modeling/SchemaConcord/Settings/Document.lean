import SchemaConcord.Schema.Document
import SchemaConcord.Settings.Basic

/-!
# Settings documents

Settings as records, and the reading of such records.
-/

namespace SchemaConcord

open Datum Reader

namespace PoolSettings

def toDatum (p : PoolSettings) : Datum :=
  .record [("min", .int p.min), ("max", .int p.max), ("idle_timeout", .real p.idleTimeout)]

def checkBounds (p : PoolSettings) : Checked PoolSettings :=
  if p.max < p.min then
    .fault (.rule ("pool.min (" ++ toString p.min ++ ") exceeds pool.max (" ++ toString p.max ++ ")"))
  else .valid p

def read : Reader PoolSettings :=
  let d : PoolSettings := {}
  model fun f => (PoolSettings.mk <$> defaultField f "min" (intFrom 0) d.min <*> defaultField f "max" (intFrom 1) d.max <*>
    defaultField f "idle_timeout" real d.idleTimeout).andThen checkBounds

end PoolSettings

namespace DatabaseSettings

def toDatum (s : DatabaseSettings) : Datum :=
  .record [("engine", .text s.engine.word), ("url", ofOption .text s.url), ("host", .text s.host),
    ("port", ofOption .int s.port), ("database", .text s.database), ("username", ofOption .text s.username),
    ("password", ofOption .text s.password), ("db_password", ofOption .text s.dbPassword), ("ssl", .flag s.ssl),
    ("connect_timeout", .real s.connectTimeout), ("pool", s.pool.toDatum)]

def read : Reader DatabaseSettings :=
  let d : DatabaseSettings := {}
  model fun f => DatabaseSettings.mk <$>
    defaultField f "engine" (choice .enumValue (wordTable EngineKind.word EngineKind.all)) d.engine <*>
    optionalField f "url" text <*> defaultField f "host" text d.host <*> optionalField f "port" int <*>
    defaultField f "database" text d.database <*> optionalField f "username" text <*> optionalField f "password" text <*>
    optionalField f "db_password" text <*> defaultField f "ssl" flag d.ssl <*>
    defaultField f "connect_timeout" real d.connectTimeout <*> defaultField f "pool" PoolSettings.read d.pool

end DatabaseSettings

namespace DriftSettings

def toDatum (s : DriftSettings) : Datum :=
  .record [("enabled", .flag s.enabled), ("auto_fix", .flag s.autoFix), ("baseline_path", .text s.baselinePath),
    ("report_directory", .text s.reportDirectory), ("notification_webhook", ofOption .text s.webhook),
    ("migration_table", .text s.migrationTable), ("timeout", .real s.timeout),
    ("notification_timeout", .real s.notificationTimeout), ("allowed_drifts", texts s.allowedDrifts),
    ("ignore_tables", texts s.ignoreTables), ("ignore_columns", texts s.ignoreColumns)]

def read : Reader DriftSettings :=
  let d : DriftSettings := {}
  model fun f => DriftSettings.mk <$> defaultField f "enabled" flag d.enabled <*>
    defaultField f "auto_fix" flag d.autoFix <*> defaultField f "baseline_path" text d.baselinePath <*>
    defaultField f "report_directory" text d.reportDirectory <*> optionalField f "notification_webhook" text <*>
    defaultField f "migration_table" text d.migrationTable <*> defaultField f "timeout" real d.timeout <*>
    defaultField f "notification_timeout" real d.notificationTimeout <*>
    defaultField f "allowed_drifts" (list text) [] <*> defaultField f "ignore_tables" (list text) [] <*>
    defaultField f "ignore_columns" (list text) []

end DriftSettings

namespace RouteSettings

def toDatum (s : RouteSettings) : Datum :=
  .record [("enabled", .flag s.enabled), ("patterns", texts s.patterns), ("directories", texts s.directories),
    ("strict", .flag s.strict), ("output_directory", .text s.outputDirectory)]

def read : Reader RouteSettings :=
  let d : RouteSettings := {}
  model fun f => RouteSettings.mk <$> defaultField f "enabled" flag d.enabled <*>
    defaultField f "patterns" (list text) d.patterns <*> defaultField f "directories" (list text) [] <*>
    defaultField f "strict" flag d.strict <*> defaultField f "output_directory" text d.outputDirectory

end RouteSettings

namespace FormSettings

def toDatum (s : FormSettings) : Datum :=
  .record [("enabled", .flag s.enabled), ("patterns", texts s.patterns), ("directories", texts s.directories)]

def read : Reader FormSettings :=
  let d : FormSettings := {}
  model fun f => FormSettings.mk <$> defaultField f "enabled" flag d.enabled <*>
    defaultField f "patterns" (list text) d.patterns <*> defaultField f "directories" (list text) []

end FormSettings

namespace ValidationSettings

def toDatum (s : ValidationSettings) : Datum :=
  .record [("routes", s.routes.toDatum), ("forms", s.forms.toDatum)]

def read : Reader ValidationSettings :=
  model fun f => ValidationSettings.mk <$> defaultField f "routes" RouteSettings.read {} <*>
    defaultField f "forms" FormSettings.read {}

end ValidationSettings

namespace LoggingSettings

def toDatum (s : LoggingSettings) : Datum := .record [("level", .text s.level)]

def read : Reader LoggingSettings :=
  model fun f => LoggingSettings.mk <$> defaultField f "level" text "INFO"

end LoggingSettings

end SchemaConcord
