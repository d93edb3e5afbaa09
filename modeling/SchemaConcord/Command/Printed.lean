import SchemaConcord.Decimal.Fixed
import SchemaConcord.Drift.Document
import SchemaConcord.Form.Validate
import SchemaConcord.Outcome
import SchemaConcord.Pool.Count
import SchemaConcord.Route.Validate
import SchemaConcord.Settings.Basic

/-!
# What is printed

The console gets lines with markup for their style, and tables. This module says how the results of commands look on
it.
-/

namespace SchemaConcord

open Text

structure ConsoleTable where
  title : String
  columns : List String
  rows : List (List String)
  deriving DecidableEq, Repr

inductive Printed where
  | line (s : String)
  | table (t : ConsoleTable)
  deriving DecidableEq, Repr

def styled (style s : String) : String := "[" ++ style ++ "]" ++ s ++ "[/" ++ style ++ "]"

namespace Printed

def failure (s : String) : Printed := .line (styled "bold red" "x" ++ " " ++ s)

def success (s : String) : Printed := .line (styled "bold green" "v" ++ " " ++ s)

def error (message : String) : Printed := .line (styled "red" ("Error: " ++ message))

def details (s : String) : List Printed := if s.isEmpty then [] else [.line ("  " ++ styled "dim" s)]

def warnings (l : List String) : List Printed := l.map fun w => .line (styled "yellow" "!" ++ " " ++ w)

def failed (f : Failure) : Printed := failure (f.message ++ ": " ++ f.details)

def migrations (statements : List String) : List Printed :=
  if statements.isEmpty then []
  else .line ("\n" ++ styled "bold" "Suggested migrations:") ::
    statements.map fun s => .line ("  " ++ styled "cyan" s)

end Printed

/-! ## Drifts -/

def Severity.style : Severity → String
  | .critical => "bold red"
  | .high => "red"
  | .medium => "yellow"
  | .low => "dim"

def Drift.cells (d : Drift) : List String :=
  [styled d.severity.style (uppercase d.severity.word), d.type.word, d.object, d.message]

namespace Report

def table (r : Report) : ConsoleTable :=
  ⟨"Schema Drift", ["Severity", "Type", "Object", "Message"], r.drifts.map Drift.cells⟩

def printed (r : Report) (file : String) (fixed : Int) : List Printed :=
  if r.drifts.isEmpty then [.success "No drift detected"]
  else
    .line "" :: .table r.table :: Printed.migrations r.statements ++
      [.line ("\n" ++ styled "dim" ("Report written to " ++ file))] ++
      if fixed = 0 then [] else [.line (styled "dim" ("Auto-fixed " ++ toString fixed ++ " low-severity drifts"))]

end Report

def Snapshot.printedBaseline (s : Snapshot) (file : String) : Printed :=
  .success ("Saved baseline with " ++ toString s.tables.length ++ " tables to " ++ styled "cyan" file)

/-! ## Routes -/

namespace RouteFindings

def countLine (f : RouteFindings) : String :=
  "Routes: " ++ styled "bold" (toString f.routes.length) ++ " found, " ++
    styled "green" (toString f.valid.length) ++ " valid, " ++
    styled "red" (toString f.invalid.length) ++ " invalid, " ++
    styled "yellow" (toString f.missing.length) ++ " missing"

def invalidTable (f : RouteFindings) : ConsoleTable :=
  ⟨"Invalid Routes", ["Route", "Source", "Reasons"],
    f.invalid.map fun i => [i.route.key, i.route.source, joinWith "\n" i.reasons]⟩

def printed (f : RouteFindings) : List Printed :=
  .line f.countLine :: (if f.invalid.isEmpty then [] else [.table f.invalidTable]) ++
    f.missing.map (fun r => .line ("  " ++ styled "yellow" "missing" ++ " " ++ r.key)) ++
    f.generatedStubs.map fun s => .line ("  " ++ styled "green" "generated" ++ " " ++ s)

end RouteFindings

/-! ## Forms -/

namespace FormCheck

def status (c : FormCheck) : String :=
  if c.table.isNone then styled "dim" "unmatched"
  else if c.isValid then styled "green" "ok"
  else styled "red" "mismatch"

def detailLines (c : FormCheck) : List String :=
  (if c.missingColumns.isEmpty then [] else ["missing: " ++ joinWith ", " c.missingColumns]) ++
    c.kindMismatches.map (fun m => m.field ++ ": " ++ m.actual.word ++ " (expected " ++ m.expected.word ++ ")") ++
    c.ruleMismatches.map (fun m => m.field ++ ": " ++ m.message) ++
    if c.extraFields.isEmpty then [] else ["extra: " ++ joinWith ", " c.extraFields]

def cells (c : FormCheck) : List String :=
  [c.form.name, ((c.table.filter (!·.isEmpty)).getD "-"), c.status, joinWith "\n" c.detailLines]

def tableOf (l : List FormCheck) : ConsoleTable := ⟨"Forms", ["Form", "Table", "Status", "Details"], l.map cells⟩

end FormCheck

/-! ## Health -/

/-- A figure of a pool; fractions are shown with two digits behind the point. -/
def figureText : Datum → String
  | .real x => x.fixedText 2
  | .int n => toString n
  | v => v.display

namespace PoolCount

def table (c : PoolCount) : ConsoleTable :=
  ⟨"Pool Metrics", ["Metric", "Value"], c.figures.map fun (name, v) => [name, figureText v]⟩

def printedHealth (c : PoolCount) (kind : EngineKind) (healthy : Bool) : List Printed :=
  [.line (styled "bold" kind.word ++ " connection: " ++
    (if healthy then styled "green" "healthy" else styled "red" "unhealthy")), .table c.table]

end PoolCount

end SchemaConcord
