import SchemaConcord.Datum.Parts
import SchemaConcord.Files.Document
import SchemaConcord.Settings.Document
import SchemaConcord.Toml.Parser

/-!
# Configuration

The settings of a project with the directory that its relative paths start from, and how they are loaded. A
configuration is a TOML file. The root of the project is what the file says about it, or else the directory of the
file, seen from that directory.
-/

namespace SchemaConcord

structure Configuration where
  projectRoot : Path := .parse "."
  database : DatabaseSettings := {}
  drift : DriftSettings := {}
  validation : ValidationSettings := {}
  logging : LoggingSettings := {}
  deriving DecidableEq, Repr

namespace Configuration

section

open Reader

def readPath : Reader Path
  | .text s => .valid (.parse s)
  | _ => .fault .pathType

def toDatum (c : Configuration) : Datum :=
  .record [("project_root", .text c.projectRoot.text), ("database", c.database.toDatum), ("drift", c.drift.toDatum),
    ("validation", c.validation.toDatum), ("logging", c.logging.toDatum)]

def read : Reader Configuration :=
  model fun f => mk <$> defaultField f "project_root" readPath (.parse ".") <*>
    defaultField f "database" DatabaseSettings.read {} <*> defaultField f "drift" DriftSettings.read {} <*>
    defaultField f "validation" ValidationSettings.read {} <*> defaultField f "logging" LoggingSettings.read {}

end

def resolve (c : Configuration) (p : Path) : Path := c.projectRoot.join p

end Configuration

/-! ## Loading -/

inductive ConfigurationFault where
  | missing (p : Path)
  | file (fault : ReadFault)
  | syntaxError (p : Path)
  | rootKind (v : Datum)
  | model (p : Path) (fault : InvalidModel)
  deriving DecidableEq, Repr

def defaultConfigurationName : String := "schema-integrity.toml"

def ConfigurationFault.message : ConfigurationFault → String
  | .missing p => "Integrity config not found: " ++ p.text ++ "\nCreate " ++ defaultConfigurationName ++
      " with at least a [database] section."
  | .file f => f.message
  | .syntaxError p => "Invalid TOML in " ++ p.text ++ ": no TOML document"
  | .rootKind v => "expected str, bytes or os.PathLike object, not " ++ v.kindWord
  | .model p f => "Invalid config in " ++ p.text ++ ":\n" ++ f.message

namespace Configuration

/-- The directory of the project as the configuration at a path has it: what the file says, or else the directory that
holds the file. -/
def namedRoot (file : Path) : Option Datum → Except ConfigurationFault Path
  | none => .ok file.parent
  | some (.text s) => .ok (if s.isEmpty then file.parent else .parse s)
  | some v => if v.holds then .error (.rootKind v) else .ok file.parent

/-- The root of a project, seen from the directory that holds the configuration. -/
def rootFrom (file : Path) (said : Option Datum) : Except ConfigurationFault Path :=
  (namedRoot file said).map file.parent.join

def ofFields (file : Path) (fields : List (String × Datum)) : Except ConfigurationFault Configuration := do
  let root ← rootFrom file (fields.lookup "project_root")
  let others := fields.filter (·.1 != "project_root")
  let c ← (readModel "IntegrityConfig" read (.record others)).mapError (.model file)
  return { c with projectRoot := root }

/-- Loads the configuration at a path, by default the one in the home directory. -/
def load (p : Option Path) (t : FileTree) : Except ConfigurationFault Configuration := do
  let file := p.getD (Path.child ⟨"/", t.home⟩ defaultConfigurationName)
  if !t.isPresent file then throw (.missing file)
  let s ← (t.readExactly file).mapError ConfigurationFault.file
  match Toml.parse? s with
  | none => throw (.syntaxError file)
  | some fields => ofFields file fields

end Configuration

end SchemaConcord
