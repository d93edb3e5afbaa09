import SchemaConcord.Proofs.Database.Capture
import SchemaConcord.Proofs.Drift.Ignored

/-!
# An unchanged database

Two captures of one database differ in the clock only, so the second has the fingerprint of the first and shows no
difference to it. A detection that finds its baseline like that runs straight through: analysis, comparison, report,
and nothing else (`run_detect_of_nothing`). `detect_unchanged` follows a baseline from its saving to the next
detection.
-/

namespace SchemaConcord

open FileTree Detecting

theorem Snapshot.alike_takenAt (s : Snapshot) (m : Moment) : s.Alike (s.takenAt m) := by
  constructor <;> simp only [takenAt]

namespace Detector

variable {σ : Type} {d : Detector} {v v' : Services σ} {r r' : DetectorRun σ} {now : Moment} {b live : Snapshot}
  {report : Report} {p : Path}

/-! ## A run without drifts -/

theorem run_buildReport_of_same (hroutes : d.routes = none) (hforms : d.forms = none)
    (hlive : (v.analyze r.outside).2 = .ok live) (hload : d.baseline.load now r.tree = .ok (some b))
    (hsame : b.fingerprint = live.fingerprint) : d.buildReport v now r =
      (.ok (reportOf now (some b) live (d.settings.keep (b.compare live)), live), { r with
        outside := (v.analyze r.outside).1, state := .validating,
        trace := r.trace ++ [(.analyzing, .analyze), (.diffing, .loadBaseline)] }) := by
  unfold buildReport routeDrifts formDrifts
  rw [run_bind, run_analyze hlive]
  dsimp only
  rw [run_bind, run_loadBaseline (b := b)]
  · dsimp only
    rw [run_bind, run_schemaDrifts_of_same hsame, hroutes, hforms]
    simp only [run_bind, run_enter, run_pure, List.append_nil, List.append_assoc, List.cons_append, List.nil_append]
  · exact hload

theorem run_finish_of_nothing (h : report.drifts = []) (live : Snapshot) (p : Path) (r : DetectorRun σ) :
    d.finish v live report p r =
      (.ok (.ok report r.warnings [("report_path", .text p.text), ("auto_fixed", .ofNat 0)]), r) := by
  unfold finish fix
  simp only [h, List.filter_nil, List.isEmpty_nil, Bool.not_true, Bool.false_eq_true, if_false, if_true]
  cases d.settings.autoFix <;> cases d.webhook <;> rfl

theorem run_detect_of_nothing (hroutes : d.routes = none) (hforms : d.forms = none)
    (henabled : d.settings.enabled = true) (hlive : (v.analyze r.outside).2 = .ok live)
    (hload : d.baseline.load now r.tree = .ok (some b)) (hsame : b.fingerprint = live.fingerprint)
    (hnothing : d.settings.keep (b.compare live) = []) {w : FileTree}
    (hwrite : d.archive.write (reportOf now (some b) live []) r.tree = (w, .ok p)) : d.detect v now r =
      (.ok (.ok (reportOf now (some b) live []) [] [("report_path", .text p.text), ("auto_fixed", .ofNat 0)]), { r with
        outside := (v.analyze r.outside).1, tree := w, state := .idle, warnings := [],
        trace := r.trace ++ [(.analyzing, .analyze), (.diffing, .loadBaseline), (.reporting, .writeReport)] }) := by
  rw [run_detect henabled, run_buildReport_of_same (r := { r with warnings := [] }) hroutes hforms hlive hload hsame,
    hnothing]
  unfold writeReport
  simp only [run_bind, run_enter, run_note, run_onFiles, run_settle, hwrite, Except.mapError]
  rw [run_finish_of_nothing rfl]
  simp only [List.append_assoc, List.cons_append, List.nil_append]

/-! ## Saving the baseline -/

theorem run_saveBaseline (hlive : (v.analyze r.outside).2 = .ok live) {t : FileTree}
    (hsave : d.baseline.save live r.tree = (t, .ok ())) :
    (d.saveBaseline v r).1 = .ok (.ok live [] [("baseline_path", .text d.baseline.path.text)]) ∧
      (d.saveBaseline v r).2.tree = t := by
  unfold saveBaseline replaceBaseline
  rw [run_bind, run_attempt, run_bind, run_analyze hlive]
  simp only [run_bind, run_adapt, run_note, run_onFiles, run_settle, hsave, Except.mapError, run_pure, emit]
  exact ⟨trivial, trivial⟩

theorem canReport_of_save {s : Snapshot} {t t' : FileTree} (hsave : d.baseline.save s t = (t', .ok ())) {l : Location}
    {n : Nat} (hl : t.locate d.archive.directory = .ok l) (hd : t.entry? l = some (.directory n)) : d.CanReport t' :=
  have ha := BaselineFile.alters_of_save_ok hsave
  canReport_of (ha.locate hl) (ha.directory hd)

/-! ## Two captures of one database -/

theorem analyze_of_look {a : Analyzer} {db : Reflection} {m : Moment} (h : a.look db m = .ok live) :
    ((a.analyze db m).mapError AnalysisFault.failed) = .ok live := by
  unfold Analyzer.analyze
  rw [h]
  rfl

/-- A report of no drifts leaves the baseline as it is. -/
theorem baseline_of_report {t w : FileTree} {s : Snapshot} {n : Nat} (hwrite : d.archive.write report t = (w, .ok p))
    (hl : t.locate d.baseline.path = .ok (t.place d.baseline.path))
    (he : t.entry? (t.place d.baseline.path) = some (.file (.text (Json.indented s.toDatum)) n))
    (hs : s.capturedAt.WellFormed) :
    w.fileAt? (t.place d.baseline.path) = t.fileAt? (t.place d.baseline.path) ∧
      ∀ now, d.baseline.load now w = .ok (some s) := by
  obtain ⟨_, _, _, ha, _⟩ := ReportArchive.write_ok hwrite
  have he' := ha.file he id
  refine ⟨?_, fun now => BaselineFile.load_of_entry (n := n) ?_ ?_ hs now⟩
  · rw [fileAt?, fileAt?, he, he']
  · rw [ha.place]
    exact ha.locate hl
  · rw [ha.place]
    exact he'

/-- Saving the baseline and detecting on the same database, each at a time of its own: the detection returns a report
without drifts that names the two captures, asks no migration log, and leaves the baseline as it was saved. -/
theorem detect_unchanged (hroutes : d.routes = none) (hforms : d.forms = none) (henabled : d.settings.enabled = true)
    {a : Analyzer} {db : Reflection} {m m' : Moment} (hcomplete : db.Complete) (hcolumns : db.ColumnsDistinct)
    (hclock : m.WellFormed) (hanalyze : (v.analyze r.outside).2 = (a.analyze db m).mapError .failed)
    (hanalyze' : (v'.analyze r'.outside).2 = (a.analyze db m').mapError .failed)
    (hsave : ∀ s, (d.baseline.save s r.tree).2 = .ok ()) (htree : r'.tree = (d.saveBaseline v r).2.tree)
    (hcan : d.CanReport r'.tree) (now : Moment) :
    ∃ first, ∃ p : Path, a.look db m = .ok first ∧
      (d.saveBaseline v r).1 = .ok (.ok first [] [("baseline_path", .text d.baseline.path.text)]) ∧
      (d.detect v' now r').1 = .ok (.ok ⟨now, m.isoText, m'.isoText, [], []⟩ []
        [("report_path", .text p.text), ("auto_fixed", .ofNat 0)]) ∧
      (d.detect v' now r').2.trace =
        r'.trace ++ [(.analyzing, .analyze), (.diffing, .loadBaseline), (.reporting, .writeReport)] ∧
      (d.detect v' now r').2.tree.fileAt? (r'.tree.place d.baseline.path) =
        r'.tree.fileAt? (r'.tree.place d.baseline.path) ∧
      ∀ later, d.baseline.load later (d.detect v' now r').2.tree = .ok (some first) := by
  obtain ⟨first, hlook⟩ := Analyzer.exists_look hcomplete a m
  have hlook' : a.look db m' = .ok (first.takenAt m') := by
    rw [Analyzer.look_takenAt a db m m', hlook]
    rfl
  rw [analyze_of_look hlook] at hanalyze
  rw [analyze_of_look hlook'] at hanalyze'
  obtain ⟨hversion, htime, _⟩ := Analyzer.look_ok hlook
  have hs : first.capturedAt.WellFormed := by
    rw [htime]
    exact hclock
  -- The baseline holds the first capture when the detection starts.
  have hsaved : d.baseline.save first r.tree = ((d.baseline.save first r.tree).1, .ok ()) := Prod.ext rfl (hsave first)
  obtain ⟨hreturned, hfiles⟩ := run_saveBaseline hanalyze hsaved
  rw [← htree] at hfiles
  rw [← hfiles] at hsaved
  obtain ⟨hl, n, he⟩ := BaselineFile.entry_of_save hsaved
  have hload := BaselineFile.load_of_entry hl he hs now
  -- The second capture shows nothing against the first.
  have halike := Snapshot.alike_takenAt first m'
  have hnothing : first.compare (first.takenAt m') = [] := by
    rw [← halike.compare_eq (.of_time first first.capturedAt)]
    exact Snapshot.compare_self (Analyzer.columnNames_of_look hlook hcolumns)
  have hkeep : d.settings.keep (first.compare (first.takenAt m')) = [] := by
    rw [hnothing]
    rfl
  obtain ⟨w, p, hwrite⟩ := hcan (reportOf now (some first) (first.takenAt m') [])
  have hrun := run_detect_of_nothing hroutes hforms henabled hanalyze' hload halike.fingerprint_eq hkeep hwrite
  have hreport : reportOf now (some first) (first.takenAt m') [] = ⟨now, m.isoText, m'.isoText, [], []⟩ := by
    show (⟨now, first.version, m'.isoText, [], []⟩ : Report) = _
    rw [hversion]
  obtain ⟨hkept, hstill⟩ := baseline_of_report hwrite hl he hs
  rw [hrun, hreport]
  exact ⟨first, p, hlook, hreturned, rfl, rfl, hkept, hstill⟩

/-- A database with two unnamed constraints of one derived name, an index and a view. -/
def ledger : Reflection where
  dialect := "sqlite"
  tables := [("accounts", {
    columns := some [
      ⟨"id", .text "INTEGER", false, none, false, false⟩,
      ⟨"owner", .text "VARCHAR(40)", true, some "'nobody'", false, false⟩]
    primaryKey := ⟨none, ["id"]⟩
    foreignKeys := []
    uniques := [⟨none, ["owner"]⟩, ⟨none, ["owner"]⟩]
    checks := none
    indexes := [⟨"by_owner", [some "owner"], false, false⟩] })]
  views := [("owners", ⟨some "SELECT owner FROM accounts", [⟨"owner", .text "TEXT", true, none, false, false⟩]⟩)]
  refusals := []

theorem ledger_complete : ledger.Complete :=
  ⟨rfl, fun item hitem => by rw [List.mem_singleton.mp hitem]; rfl⟩

theorem ledger_columnsDistinct : ledger.ColumnsDistinct := by
  intro item hitem columns hcolumns
  rw [List.mem_singleton.mp hitem] at hcolumns
  obtain rfl := Except.ok.inj hcolumns
  decide

/-- Services that capture a database at one moment, with a migration log that knows of no migration. -/
def capturing (a : Analyzer) (db : Reflection) (m : Moment) : Services Unit where
  analyze s := (s, (a.analyze db m).mapError .failed)
  history := some fun _ _ s => (s, .ok [[("count", .int 0)]])
  post _ _ s := (s, .answered 200)

theorem save_keptProject (b s : Snapshot) : ∃ t, ofProject.baseline.save s (keptProject b) = (t, .ok ()) := by
  refine BaselineFile.Ready.exists_save ⟨by decide, ⟨["project", "schema"], _, rfl, rfl⟩, ?_⟩ s
  rintro m (rfl | rfl) <;> rfl

theorem detect_unchanged_ledger : ledger.Complete ∧ ledger.ColumnsDistinct ∧
    (⟨2024, 5, 1, 12, 0, 0, 0, some 0⟩ : Moment).WellFormed ∧
    ∀ now, ∃ p : Path, (ofProject.detect (capturing {} ledger ⟨2024, 5, 2, 8, 30, 0, 250, some 0⟩) now
        (ofProject.saveBaseline (capturing {} ledger ⟨2024, 5, 1, 12, 0, 0, 0, some 0⟩)
          (keptRun (.orders "integer" "by_total"))).2).1 =
      .ok (.ok ⟨now, "2024-05-01T12:00:00+00:00", "2024-05-02T08:30:00.000250+00:00", [], []⟩ []
        [("report_path", .text p.text), ("auto_fixed", .ofNat 0)]) := by
  have hclock : (⟨2024, 5, 1, 12, 0, 0, 0, some 0⟩ : Moment).WellFormed := by
    refine ⟨rfl, fun o ho => ?_⟩
    cases ho
    decide
  refine ⟨ledger_complete, ledger_columnsDistinct, hclock, fun now => ?_⟩
  have hsave : ∀ s, (ofProject.baseline.save s (keptProject (.orders "integer" "by_total"))).2 = .ok () := by
    intro s
    obtain ⟨t, ht⟩ := save_keptProject (.orders "integer" "by_total") s
    rw [ht]
  obtain ⟨first, hlook⟩ := Analyzer.exists_look ledger_complete {} ⟨2024, 5, 1, 12, 0, 0, 0, some 0⟩
  obtain ⟨t, ht⟩ := save_keptProject (.orders "integer" "by_total") first
  have htree := (run_saveBaseline (d := ofProject) (r := keptRun (.orders "integer" "by_total"))
    (v := capturing {} ledger ⟨2024, 5, 1, 12, 0, 0, 0, some 0⟩) (analyze_of_look hlook) ht).2
  have hcan : ofProject.CanReport t := canReport_of_save ht (l := ["project", "drift-reports"]) rfl rfl
  rw [← htree] at hcan
  have hsecond : ((capturing {} ledger ⟨2024, 5, 2, 8, 30, 0, 250, some 0⟩).analyze ()).2 =
      (Analyzer.analyze {} ledger ⟨2024, 5, 2, 8, 30, 0, 250, some 0⟩).mapError .failed := rfl
  obtain ⟨_, p, _, _, hreport, _⟩ := detect_unchanged (d := ofProject) rfl rfl rfl ledger_complete
    ledger_columnsDistinct hclock rfl hsecond hsave rfl hcan now
  exact ⟨p, hreport⟩

end Detector

end SchemaConcord
