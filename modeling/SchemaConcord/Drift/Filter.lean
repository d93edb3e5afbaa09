import SchemaConcord.Drift.Suggest
import SchemaConcord.Settings.Basic

/-!
# Filtering drifts

A drift is dropped when its type is allowed, or when it is a drift of the schema on an ignored table or column. An
ignored column is named with its table or on its own.
-/

namespace SchemaConcord.DriftSettings

open Text

def allows (s : DriftSettings) (d : Drift) : Bool := (s.allowedDrifts.map uppercase).contains d.type.word

def ignores (s : DriftSettings) (d : Drift) : Bool :=
  let (table, column) := Drift.splitObject d.object
  d.type.isSchema && (s.ignoreTables.contains table || s.ignoreColumns.contains d.object ||
    (!column.isEmpty && s.ignoreColumns.contains column))

def keep (s : DriftSettings) (drifts : List Drift) : List Drift := drifts.filter fun d => !s.allows d && !s.ignores d

end SchemaConcord.DriftSettings
