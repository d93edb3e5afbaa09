import SchemaConcord.Proofs.Database.Capture
import SchemaConcord.Proofs.Database.Tables
import SchemaConcord.Proofs.Drift.MigrationTable
import SchemaConcord.Proofs.Drift.Unchanged
import SchemaConcord.Proofs.Moment.RoundTrip

/-!
# Windows of versions

The versions of captured schemas are ordered like the moments of their capture. So the window of texts in which
migrations are looked up is the window of moments between two captures (`Snapshot.versions_in_order`).
-/

namespace SchemaConcord

/-- An analyzer took the schema at a moment in universal time. -/
structure Snapshot.CapturedAt (s : Snapshot) (m : Moment) : Prop where
  universal : m.Universal
  analyzed : ∃ (a : Analyzer) (r : Reflection), a.analyze r m = .ok s

namespace Snapshot.CapturedAt

variable {x y : Snapshot} {s t : Moment}

theorem version_eq (h : x.CapturedAt s) : x.version = s.isoText := by
  obtain ⟨a, r, hanalyze⟩ := h.analyzed
  exact (Analyzer.look_ok (Analyzer.look_of_analyze hanalyze)).1

theorem version_lt_iff (hx : x.CapturedAt s) (hy : y.CapturedAt t) : x.version < y.version ↔ s.instant < t.instant := by
  rw [hx.version_eq, hy.version_eq]
  exact Moment.isoText_lt_iff hx.universal hy.universal

theorem version_le_iff (hx : x.CapturedAt s) (hy : y.CapturedAt t) : x.version ≤ y.version ↔ s.instant ≤ t.instant := by
  rw [← String.not_lt, hy.version_lt_iff hx, Nat.not_lt]

end Snapshot.CapturedAt

/-! ## The log of migrations -/

namespace MigrationLog

/-- A migration as a log has it. -/
structure Record where
  version : String
  status : String

/-- What the counting statement asks of a record, texts compared by code points. -/
def Record.isCounted (before after : String) (e : Record) : Bool :=
  before < e.version && e.version ≤ after && e.status = "completed"

variable {σ : Type}

/-- A database that answers the counting statement about a table from a log. -/
def Keeps (history : String → Datum → σ → σ × Except ConnectionFault (List Row)) (table : String) (log : List Record) :
    Prop :=
  ∀ before after s, (history (countStatement table)
      (.record [("from_version", .text before), ("to_version", .text after)]) s).2 =
    .ok [[("count", .int (log.countP (Record.isCounted before after)))]]

/-- A database that has nothing but a log. -/
def answer (log : List Record) : String → Datum → σ → σ × Except ConnectionFault (List Row)
  | _, .record [(_, .text before), (_, .text after)], s =>
    (s, .ok [[("count", .int (log.countP (Record.isCounted before after)))]])
  | _, _, s => (s, .ok [])

theorem keeps_answer (table : String) (log : List Record) : Keeps (answer (σ := σ) log) table log := fun _ _ _ => rfl

end MigrationLog

open MigrationLog

theorem Detector.recorded_of_keeps {σ : Type} {d : Detector} {v : Services σ}
    {history : String → Datum → σ → σ × Except ConnectionFault (List Row)} {log : List Record}
    (htable : Admitted d.settings.migrationTable) (hlog : Keeps history d.settings.migrationTable log)
    (before after : String) (s : σ) :
    d.recorded { v with history := some history } before after s = .ok (log.any (Record.isCounted before after)) := by
  have hcount : decide (0 < (log.countP (Record.isCounted before after) : Int)) =
      log.any (Record.isCounted before after) := by
    rw [Bool.eq_iff_iff, decide_eq_true_iff, Int.natCast_pos, List.countP_pos_iff, List.any_eq_true]
  unfold recorded
  simp only [countSql_of_admitted htable, hlog before after s, tellsOfSome, List.lookup_cons, BEq.rfl, readCount]
  exact congrArg Except.ok hcount

/-- A migration with the schema that was captured after it. -/
structure Migration where
  schema : Snapshot
  moment : Moment
  status : String
  captured : schema.CapturedAt moment

namespace Migration

/-- The migration in a log that names it by the version of its schema. -/
def record (m : Migration) : Record := ⟨m.schema.version, m.status⟩

def isCompletedBetween (s t : Moment) (m : Migration) : Bool :=
  s.instant < m.moment.instant && m.moment.instant ≤ t.instant && m.status = "completed"

theorem isCounted_record {x y : Snapshot} {s t : Moment} (hx : x.CapturedAt s) (hy : y.CapturedAt t) (m : Migration) :
    m.record.isCounted x.version y.version = m.isCompletedBetween s t := by
  unfold Record.isCounted isCompletedBetween record
  rw [decide_eq_decide.mpr (hx.version_lt_iff m.captured), decide_eq_decide.mpr (m.captured.version_le_iff hy)]

end Migration

/-- Versions are ordered like the moments of capture; a version lies in the window of two others when its schema was
captured between them; and the lookup between two versions tells whether a migration was completed in that time. -/
theorem Snapshot.versions_in_order {x y : Snapshot} {s t : Moment} (hx : x.CapturedAt s) (hy : y.CapturedAt t) :
    (x.version < y.version ↔ s.instant < t.instant) ∧
      (∀ (z : Snapshot) (u : Moment), z.CapturedAt u →
        (x.version < z.version ∧ z.version ≤ y.version ↔ s.instant < u.instant ∧ u.instant ≤ t.instant)) ∧
      ∀ {σ : Type} (d : Detector) (v : Services σ)
        (history : String → Datum → σ → σ × Except ConnectionFault (List Row)) (migrations : List Migration)
        (r : DetectorRun σ), Admitted d.settings.migrationTable →
          Keeps history d.settings.migrationTable (migrations.map Migration.record) →
            (d.hasMigration { v with history := some history } x.version y.version r).1 =
              .ok (migrations.any (Migration.isCompletedBetween s t)) := by
  refine ⟨hx.version_lt_iff hy, fun z u hz => ?_, fun d v history migrations r htable hlog => ?_⟩
  · rw [hx.version_lt_iff hz, hz.version_le_iff hy]
  · rw [Detector.result_hasMigration, Detector.recorded_of_keeps htable hlog, List.any_map]
    exact congrArg (Except.ok <| migrations.any ·) (funext (Migration.isCounted_record hx hy))

/-! ## The turn of a leap day -/

def leapDayEnd : Moment := ⟨2024, 2, 29, 23, 59, 59, 999999, some 0⟩

def marchBegin : Moment := ⟨2024, 3, 1, 0, 0, 0, 0, some 0⟩

/-- The later text has no fraction; a migration of that moment falls in the window, one of the earlier moment does
not. -/
theorem Snapshot.versions_in_order_leapDay : ∃ x y : Snapshot, ∃ hx : x.CapturedAt leapDayEnd,
    ∃ hy : y.CapturedAt marchBegin, x.version = "2024-02-29T23:59:59.999999+00:00" ∧
      y.version = "2024-03-01T00:00:00+00:00" ∧ x.version < y.version ∧
      ∀ (status : String) (r : DetectorRun Unit),
        (Detector.ofProject.hasMigration
            { Detector.capturing {} Detector.ledger marchBegin with
              history := some (answer ([⟨x, _, status, hx⟩, ⟨y, _, status, hy⟩].map Migration.record)) }
            x.version y.version r).1 = .ok (decide (status = "completed")) := by
  obtain ⟨x, hlook⟩ := Analyzer.exists_look Detector.ledger_complete {} leapDayEnd
  obtain ⟨y, hlook'⟩ := Analyzer.exists_look Detector.ledger_complete {} marchBegin
  have hx : x.CapturedAt leapDayEnd := ⟨by decide, {}, Detector.ledger, by rw [Analyzer.analyze, hlook]; rfl⟩
  have hy : y.CapturedAt marchBegin := ⟨by decide, {}, Detector.ledger, by rw [Analyzer.analyze, hlook']; rfl⟩
  have hlt : leapDayEnd.instant < marchBegin.instant := by decide +kernel
  obtain ⟨horder, -, hlookup⟩ := versions_in_order hx hy
  have htable : Admitted Detector.ofProject.settings.migrationTable := isTableName_toList.mp (by decide)
  refine ⟨x, y, hx, hy, hx.version_eq, hy.version_eq, horder.mpr hlt, fun status r => ?_⟩
  rw [hlookup _ _ _ _ _ htable (keeps_answer _ _)]
  simp [Migration.isCompletedBetween, hlt]

end SchemaConcord
