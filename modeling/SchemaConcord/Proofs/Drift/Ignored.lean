import Mathlib.Data.List.Permutation
import SchemaConcord.Proofs.Drift.AutoFix

/-!
# Ignored differences

The settings drop drifts one by one, but the fingerprint is one of the whole schema. When all that a comparison found
is dropped, one drift can still be reported: that the change as a whole is recorded nowhere. It is reported when the
fingerprints differ and no migration is recorded, and nothing is reported otherwise (`detect_ignored`).
-/

namespace SchemaConcord

open FileTree Detecting Text

/-- Whether a change that no migration accounts for is dropped like any other drift. -/
def DriftSettings.hidesUnrecorded (s : DriftSettings) : Bool :=
  (s.allowedDrifts.map uppercase).contains DriftType.constraintMismatch.word ||
    (s.ignoreTables.contains wholeSchema || s.ignoreColumns.contains wholeSchema)

theorem DriftSettings.keep_unrecordedDrift (s : DriftSettings) (b live : Snapshot) :
    s.keep [b.unrecordedDrift live] = if s.hidesUnrecorded then [] else [b.unrecordedDrift live] := by
  have hallows : s.allows (b.unrecordedDrift live) =
      (s.allowedDrifts.map uppercase).contains DriftType.constraintMismatch.word := rfl
  have hignores : s.ignores (b.unrecordedDrift live) =
      (s.ignoreTables.contains wholeSchema || s.ignoreColumns.contains wholeSchema) := by
    have hsplit : Drift.splitObject (b.unrecordedDrift live).object = (wholeSchema, "") := by
      show Drift.splitObject wholeSchema = _
      decide
    unfold ignores
    rw [hsplit]
    exact (Bool.true_and _).trans (Bool.or_false _)
  unfold keep hidesUnrecorded
  rw [List.filter_singleton, hallows, hignores, ← Bool.not_or]
  cases (s.allowedDrifts.map uppercase).contains DriftType.constraintMismatch.word ||
    (s.ignoreTables.contains wholeSchema || s.ignoreColumns.contains wholeSchema) <;> rfl

namespace Detector

variable {σ : Type} {d : Detector} {v : Services σ} {r : DetectorRun σ} {now : Moment} {b live : Snapshot}
  {report : Report}

/-- Whatever a report says, it can be written. -/
def CanReport (d : Detector) (t : FileTree) : Prop := ∀ report, ∃ w p, d.archive.write report t = (w, .ok p)

theorem canReport_of {t : FileTree} {l : Location} {n : Nat} (hl : t.locate d.archive.directory = .ok l)
    (hd : t.entry? l = some (.directory n)) : d.CanReport t := by
  intro report
  obtain ⟨k, _, hwrite⟩ := ReportArchive.write_eq hl hd report
  exact ⟨_, _, hwrite⟩

/-! ## From the report to what is told -/

theorem reported_of_error {f : DetectionFault}
    (h : (d.buildReport v now { r with warnings := [] }).1 = .error f) : d.reported v now r = [] := by
  rcases writes_or_quiet d v now r with ⟨live, report, w, p, hw⟩ | hq
  · cases h.symm.trans hw.built
  · rw [reported, hq.told]
    rfl

theorem reported_of_built (h : (d.buildReport v now { r with warnings := [] }).1 = .ok (report, live)) :
    d.reported v now r = [] ∨ d.reported v now r = report.drifts := by
  rcases writes_or_quiet d v now r with ⟨live', report', w, p, hw⟩ | hq
  · cases h.symm.trans hw.built
    exact .inr hw.reported_eq
  · rw [reported, hq.told]
    exact .inl rfl

theorem reported_of_canReport (hroutes : d.routes = none) (henabled : d.settings.enabled = true)
    (hcan : d.CanReport r.tree) (h : (d.buildReport v now { r with warnings := [] }).1 = .ok (report, live)) :
    d.reported v now r = report.drifts := by
  obtain ⟨w, p, hwrite⟩ := hcan report
  rw [← tree_buildReport hroutes v now r] at hwrite
  exact (writes_of henabled h hwrite).reported_eq

/-! ## When every difference is dropped -/

section
variable (hroutes : d.routes = none) (hforms : d.forms = none) (hlive : (v.analyze r.outside).2 = .ok live)
  (hload : d.baseline.load now r.tree = .ok (some b)) (hignored : d.settings.keep (b.compare live) = [])

include hroutes hforms hlive hload

theorem fault_of_ne (h : b.fingerprint ≠ live.fingerprint) {f : MigrationLog.CountFault}
    (hfault : d.recorded v b.version live.version (v.analyze r.outside).1 = .error f) :
    (d.buildReport v now { r with warnings := [] }).1 = .error (.history f) :=
  result_buildReport_of (r := { r with warnings := [] }) hroutes hforms hlive hload (.error (.history f))
    fun u hu => by
      rw [result_schemaDrifts_of_ne h, hu, hfault]
      rfl

include hignored

theorem drifts_of_same (h : b.fingerprint = live.fingerprint) :
    ∃ report, (d.buildReport v now { r with warnings := [] }).1 = .ok (report, live) ∧ report.drifts = [] :=
  ⟨_, result_buildReport_of (r := { r with warnings := [] }) hroutes hforms hlive hload (.ok (b.compare live))
    fun u _ => by rw [run_schemaDrifts_of_same h], hignored⟩

theorem drifts_of_ne (h : b.fingerprint ≠ live.fingerprint) {found : Bool}
    (hfound : d.recorded v b.version live.version (v.analyze r.outside).1 = .ok found) :
    ∃ report, (d.buildReport v now { r with warnings := [] }).1 = .ok (report, live) ∧
      report.drifts = if found || d.settings.hidesUnrecorded then [] else [b.unrecordedDrift live] := by
  refine ⟨_, result_buildReport_of (r := { r with warnings := [] }) hroutes hforms hlive hload
    (.ok (b.compare live ++ if found then [] else [b.unrecordedDrift live])) fun u hu => ?_, ?_⟩
  · rw [result_schemaDrifts_of_ne h, hu, hfound]
    rfl
  · show d.settings.keep _ = _
    have happend : ∀ l, d.settings.keep (b.compare live ++ l) = d.settings.keep l := by
      intro l
      have h := List.filter_append (p := fun x => !d.settings.allows x && !d.settings.ignores x) (b.compare live) l
      exact h.trans (congrArg (· ++ d.settings.keep l) hignored)
    rw [happend]
    cases found with
    | true => rfl
    | false => exact d.settings.keep_unrecordedDrift b live

theorem reported_unrecorded (henabled : d.settings.enabled = true) (hcan : d.CanReport r.tree)
    (h : b.fingerprint ≠ live.fingerprint)
    (hnone : d.recorded v b.version live.version (v.analyze r.outside).1 = .ok false) :
    d.reported v now r = if d.settings.hidesUnrecorded then [] else [b.unrecordedDrift live] := by
  obtain ⟨report, hbuilt, hdrifts⟩ := drifts_of_ne hroutes hforms hlive hload hignored h hnone
  rw [reported_of_canReport hroutes henabled hcan hbuilt, hdrifts, Bool.false_or]

theorem reported_nothing (h : b.fingerprint = live.fingerprint ∨
      d.recorded v b.version live.version (v.analyze r.outside).1 ≠ .ok false) : d.reported v now r = [] := by
  have hnothing : ∀ {report}, (d.buildReport v now { r with warnings := [] }).1 = .ok (report, live) →
      report.drifts = [] → d.reported v now r = [] := fun hbuilt hdrifts =>
    (reported_of_built hbuilt).elim id fun h => h.trans hdrifts
  by_cases hsame : b.fingerprint = live.fingerprint
  · obtain ⟨report, hbuilt, hdrifts⟩ := drifts_of_same hroutes hforms hlive hload hignored hsame
    exact hnothing hbuilt hdrifts
  · have hanswer := h.resolve_left hsame
    cases hrecorded : d.recorded v b.version live.version (v.analyze r.outside).1 with
    | error f => exact reported_of_error (fault_of_ne hroutes hforms hlive hload hsame hrecorded)
    | ok found =>
      cases found with
      | false => exact absurd hrecorded hanswer
      | true =>
        obtain ⟨report, hbuilt, hdrifts⟩ := drifts_of_ne hroutes hforms hlive hload hignored hsame hrecorded
        exact hnothing hbuilt hdrifts

/-- When the settings drop every difference, nothing is reported if the fingerprints agree or the migration log does
not deny a migration. If they differ and it does, the one drift that can be reported is the unrecorded change of the
whole schema, and it is unless the settings drop that one too. -/
theorem detect_ignored :
    ((b.fingerprint = live.fingerprint ∨
        d.recorded v b.version live.version (v.analyze r.outside).1 ≠ .ok false) → d.reported v now r = []) ∧
      (∀ x ∈ d.reported v now r, x = b.unrecordedDrift live) ∧
      (d.settings.enabled = true → d.CanReport r.tree → b.fingerprint ≠ live.fingerprint →
        d.recorded v b.version live.version (v.analyze r.outside).1 = .ok false →
        d.reported v now r = if d.settings.hidesUnrecorded then [] else [b.unrecordedDrift live]) := by
  refine ⟨reported_nothing hroutes hforms hlive hload hignored, fun x hx => ?_,
    reported_unrecorded hroutes hforms hlive hload hignored⟩
  by_cases h : b.fingerprint = live.fingerprint ∨
      d.recorded v b.version live.version (v.analyze r.outside).1 ≠ .ok false
  · rw [reported_nothing hroutes hforms hlive hload hignored h] at hx
    cases hx
  · obtain ⟨hne, hnone⟩ := not_or.mp h
    obtain ⟨report, hbuilt, hdrifts⟩ :=
      drifts_of_ne hroutes hforms hlive hload hignored hne (Decidable.not_not.mp hnone)
    rcases reported_of_built hbuilt with hr | hr
    · rw [hr] at hx
      cases hx
    · rw [hr, hdrifts] at hx
      split at hx
      · cases hx
      · exact List.mem_singleton.mp hx

end

/-- A project that does not care for the columns called `total`. -/
def ignoringTotal : Detector := { ofProject with settings := { ignoreColumns := ["total"] } }

theorem keep_ignoringTotal : ignoringTotal.settings.keep
    ((Snapshot.orders "integer" "by_total").compare (.orders "text" "by_total")) = [] := by
  decide +kernel

theorem fingerprint_orders_ne :
    (Snapshot.orders "integer" "by_total").fingerprint ≠ (Snapshot.orders "text" "by_total").fingerprint := by
  have hinteger : (Snapshot.orders "integer" "by_total").structureText =
      "[\x7b\"columns\":[\x7b\"name\":\"id\",\"nullable\":false,\"type\":\"integer\"\x7d," ++
        "\x7b\"name\":\"total\",\"nullable\":true,\"type\":\"integer\"\x7d],\"name\":\"orders\"\x7d]" := by
    cbv
  have htext : (Snapshot.orders "text" "by_total").structureText =
      "[\x7b\"columns\":[\x7b\"name\":\"id\",\"nullable\":false,\"type\":\"integer\"\x7d," ++
        "\x7b\"name\":\"total\",\"nullable\":true,\"type\":\"text\"\x7d],\"name\":\"orders\"\x7d]" := by
    cbv
  unfold Snapshot.fingerprint
  rw [hinteger, htext]
  decide +kernel

/-- A drift is reported although every difference is dropped. -/
theorem ignored_reported_orders : ignoringTotal.routes = none ∧ ignoringTotal.forms = none ∧
    ignoringTotal.settings.keep
      ((Snapshot.orders "integer" "by_total").compare (.orders "text" "by_total")) = [] ∧
    ∀ now, ignoringTotal.baseline.load now (keptProject (.orders "integer" "by_total")) =
        .ok (some (.orders "integer" "by_total")) ∧
      ignoringTotal.reported (.always (.orders "text" "by_total")) now (keptRun (.orders "integer" "by_total")) =
        [(Snapshot.orders "integer" "by_total").unrecordedDrift (.orders "text" "by_total")] := by
  refine ⟨rfl, rfl, keep_ignoringTotal, fun now => ?_⟩
  have hload := load_keptProject (Snapshot.orders_wellFormed "integer" "by_total") now
  have hcan : ignoringTotal.CanReport (keptProject (.orders "integer" "by_total")) :=
    canReport_of (l := ["project", "drift-reports"]) rfl rfl
  exact ⟨hload, reported_unrecorded rfl rfl rfl hload keep_ignoringTotal rfl hcan fingerprint_orders_ne rfl⟩

/-- Services that answer with one schema and with one count of completed migrations. -/
def migratedServices (live : Snapshot) (count : Int) : Services Unit :=
  { Services.always live with history := some fun _ _ s => (s, .ok [[("count", .int count)]]) }

theorem detect_ignored_orders : ignoringTotal.settings.keep
      ((Snapshot.orders "integer" "by_total").compare (.orders "text" "by_total")) = [] ∧
    ignoringTotal.CanReport (keptProject (.orders "integer" "by_total")) ∧
    (Snapshot.orders "integer" "by_total").fingerprint ≠ (Snapshot.orders "text" "by_total").fingerprint ∧
    ∀ now, ignoringTotal.baseline.load now (keptProject (.orders "integer" "by_total")) =
        .ok (some (.orders "integer" "by_total")) ∧
      ignoringTotal.reported (migratedServices (.orders "text" "by_total") 1) now
        (keptRun (.orders "integer" "by_total")) = [] ∧
      ignoringTotal.reported (migratedServices (.orders "text" "by_total") 0) now
        (keptRun (.orders "integer" "by_total")) =
          [(Snapshot.orders "integer" "by_total").unrecordedDrift (.orders "text" "by_total")] := by
  have hcan : ignoringTotal.CanReport (keptProject (.orders "integer" "by_total")) :=
    canReport_of (l := ["project", "drift-reports"]) rfl rfl
  refine ⟨keep_ignoringTotal, hcan, fingerprint_orders_ne, fun now => ?_⟩
  have hload := load_keptProject (Snapshot.orders_wellFormed "integer" "by_total") now
  have hrecorded : ∀ count, ignoringTotal.recorded (migratedServices (.orders "text" "by_total") count) "1" "1" () =
      .ok (decide (0 < count)) := fun count => rfl
  obtain ⟨hnothing, _, _⟩ := detect_ignored (d := ignoringTotal) (r := keptRun (.orders "integer" "by_total"))
    (v := migratedServices (.orders "text" "by_total") 1) rfl rfl rfl hload keep_ignoringTotal
  obtain ⟨_, _, hunrecorded⟩ := detect_ignored (d := ignoringTotal) (r := keptRun (.orders "integer" "by_total"))
    (v := migratedServices (.orders "text" "by_total") 0) rfl rfl rfl hload keep_ignoringTotal
  refine ⟨hload, hnothing (.inr ?_), hunrecorded rfl hcan fingerprint_orders_ne ?_⟩
  · exact fun h => nomatch h.symm.trans (hrecorded 1)
  · exact hrecorded 0

end Detector

end SchemaConcord
