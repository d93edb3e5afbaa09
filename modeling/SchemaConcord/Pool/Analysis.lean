import SchemaConcord.Database.Analysis
import SchemaConcord.Pool.Manager

/-!
# Analysis on a connection

An analysis is one piece of work on a connection. When the work fails for whatever reason the analysis fails; only
one that does not end in time is told apart.
-/

namespace SchemaConcord.Manager

def analysisWork (b : Backend σ) (a : Analyzer) (now : Moment) : Work σ Snapshot := fun s =>
  let (s, found) := s.perform b.reflect
  (s, found.bind fun r => (a.analyze r now).mapError fun f => .abandoned f.details)

def analyze (m : Manager σ) (b : Backend σ) (i : Nat) (a : Analyzer) (now : Moment) :
    Manager σ × Except AnalysisFault Snapshot :=
  let (m, r) := m.transaction b i (analysisWork b a now)
  (m, r.mapError fun
    | .timeout => .timeout
    | f => .failed (Analyzer.failure f.message))

end SchemaConcord.Manager
