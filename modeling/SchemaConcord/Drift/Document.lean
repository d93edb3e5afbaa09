import SchemaConcord.Drift.Basic

/-!
# Drift and report documents

Drifts, suggestions and reports as records, the reading of such records, and the layout of a report as text.
-/

namespace SchemaConcord

open Datum Reader Text

namespace Drift

def toDatum (d : Drift) : Datum :=
  .record [("type", .text d.type.word), ("severity", .text d.severity.word), ("object", .text d.object),
    ("expected", d.expected.toDatum), ("actual", d.actual.toDatum), ("message", .text d.message)]

def checkSides (d : Drift) : Checked Drift :=
  if d.expected.isAbsent && d.actual.isAbsent then
    .fault (.rule ("Drift on '" ++ d.object ++ "' has neither expected nor actual value"))
  else .valid d

def readWith (side : Reader Side) : Reader Drift :=
  model fun f => (Drift.mk <$> needField f "type" (choice .enumValue (wordTable DriftType.word DriftType.all)) <*>
    needField f "severity" (choice .enumValue (wordTable Severity.word Severity.all)) <*>
    needField f "object" text <*> defaultField f "expected" side .absent <*> defaultField f "actual" side .absent <*>
    needField f "message" text).andThen checkSides

def read : Reader Drift := readWith fun v => .valid (.value v)

end Drift

namespace Suggestion

def toDatum (s : Suggestion) : Datum :=
  .record [("type", .text s.kind.word), ("object", .text s.object), ("description", .text s.description),
    ("sql", ofOption .text s.sql), ("code", ofOption .text s.code), ("impact", texts s.impact)]

def read : Reader Suggestion :=
  model fun f => Suggestion.mk <$>
    needField f "type" (choice .enumValue (wordTable SuggestionKind.word SuggestionKind.all)) <*>
    needField f "object" text <*> needField f "description" text <*> optionalField f "sql" text <*>
    optionalField f "code" text <*> defaultField f "impact" (list text) []

end Suggestion

namespace Report

def toDatum (r : Report) : Datum :=
  .record [("timestamp", .text r.timestamp.jsonText), ("schema_version", .text r.schemaVersion),
    ("database_version", .text r.databaseVersion), ("drifts", .list (r.drifts.map Drift.toDatum)),
    ("suggestions", .list (r.suggestions.map Suggestion.toDatum))]

def readWith (side : Reader Side) : Reader Report :=
  model fun f => Report.mk <$> needField f "timestamp" moment <*> needField f "schema_version" text <*>
    needField f "database_version" text <*> defaultField f "drifts" (list (Drift.readWith side)) [] <*>
    defaultField f "suggestions" (list Suggestion.read) []

def read : Reader Report := readWith fun v => .valid (.value v)

def summary (r : Report) : Datum :=
  .record (("total", ofNat r.drifts.length) :: Severity.all.map fun s => (s.word, ofNat (r.count s)))

/-! ## Layout as text -/

def severityLines (r : Report) (s : Severity) : List String :=
  match r.drifts.filter (·.severity = s) with
  | [] => []
  | drifts =>
    ("\n  " ++ uppercase s.word ++ " (" ++ toString drifts.length ++ "):") ::
      drifts.map fun d => "    - [" ++ d.type.word ++ "] " ++ d.object ++ ": " ++ d.message

/-- The statements that suggestions carry; an empty one does not count. -/
def statements (r : Report) : List String := (r.suggestions.filterMap (·.sql)).filter fun s => !s.isEmpty

def format (r : Report) : String :=
  if r.drifts.isEmpty then "No drift detected"
  else
    let head := "Drift detected (" ++ toString r.drifts.length ++ "): " ++
      joinWith ", " (Severity.all.map fun s => toString (r.count s) ++ " " ++ s.word)
    let sql := match r.statements with
      | [] => []
      | l => ("\n  Suggested SQL (" ++ toString l.length ++ "):") :: l.map ("    " ++ ·)
    joinWith "\n" (head :: (Severity.all.flatMap r.severityLines ++ sql))

def payload (r : Report) : Datum :=
  .record [("event", .text "drift_detected"), ("timestamp", .text r.timestamp.isoText), ("summary", r.summary),
    ("drifts", .list (r.drifts.map Drift.toDatum)), ("suggestions", .list (r.suggestions.map Suggestion.toDatum))]

end Report

end SchemaConcord
