import SchemaConcord.Proofs.Drift.Frame

/-!
# Detecting again

What a second detection of an unchanged schema reports. A fix takes the whole live schema for the baseline, with all
that weighs more than the drift that led to it, so nothing is reported after it (`reported_of_saves`). Without a fix
every drift is reported again (`reported_again`). `detect_again` puts both together.
-/

namespace SchemaConcord

open FileTree Detecting

/-- Schemas that differ in version and time at most. -/
structure Snapshot.Alike (s t : Snapshot) : Prop where
  tables : s.tables = t.tables
  views : s.views = t.views
  indexes : s.indexes = t.indexes

namespace Snapshot.Alike

variable {s t e a : Snapshot}

theorem of_time (s : Snapshot) (m : Moment) : Alike s { s with capturedAt := m } := ⟨rfl, rfl, rfl⟩

theorem compare_eq (h : Alike s t) (h' : Alike e a) : e.compare s = a.compare t := by
  unfold Snapshot.compare compareTables tableNames
  rw [h.tables, h.views, h.indexes, h'.tables, h'.views, h'.indexes]

theorem fingerprint_eq (h : Alike s t) : s.fingerprint = t.fingerprint := by
  unfold fingerprint structureText
  rw [h.tables]

theorem symm (h : Alike s t) : Alike t s := ⟨h.tables.symm, h.views.symm, h.indexes.symm⟩

end Snapshot.Alike

def DetectorEvent.drifts : DetectorEvent → List Drift
  | .driftDetected report _ => report.drifts
  | _ => []

namespace Detector

variable {σ : Type} {d : Detector} {v v' : Services σ} {r r' : DetectorRun σ} {now : Moment}
  {live live' : Snapshot} {report : Report} {w : FileTree} {p : Path}

theorem expectedDrifts_alike {b b' : Snapshot} (h : live.Alike live') (hb : b.Alike b') :
    expectedDrifts live (some b) = expectedDrifts live' (some b') := by
  unfold expectedDrifts Snapshot.unrecordedDrift
  simp only [h.compare_eq hb, h.fingerprint_eq, hb.fingerprint_eq]

theorem expectedDrifts_self (h : live.Alike live') : expectedDrifts live' (some live) = live.compare live := by
  rw [expectedDrifts_alike h.symm (.of_time live live.capturedAt)]
  unfold expectedDrifts
  simp only [if_true, List.append_nil]

/-! ## What a run reports -/

def reported (d : Detector) (v : Services σ) (now : Moment) (r : DetectorRun σ) : List Drift :=
  (d.told v now r).flatMap DetectorEvent.drifts

/-- Whether a run makes the live schema the baseline. -/
def Saves (d : Detector) (v : Services σ) (now : Moment) (r : DetectorRun σ) : Prop :=
  ∃ version, .baselineSaved d.baseline.path version ∈ d.told v now r

namespace Writes

theorem reported_eq (h : d.Writes v now r live report w p) : d.reported v now r = report.drifts := by
  obtain ⟨l, m, htold, hfailed, hfix⟩ := h.told
  have hannounced : (announcement report p).flatMap DetectorEvent.drifts = report.drifts := by
    unfold announcement
    by_cases hd : report.drifts.isEmpty
    · rw [if_pos hd, List.isEmpty_iff.mp hd]
      rfl
    · rw [if_neg hd]
      exact List.append_nil _
  have hl : l.flatMap DetectorEvent.drifts = [] := by
    cases hfix with
    | nothing => rfl
    | unsaved => rfl
    | saved =>
      refine List.flatMap_eq_nil_iff.mpr fun e he => ?_
      rcases List.mem_append.mp he with he | he
      · obtain ⟨x, _, rfl⟩ := List.mem_map.mp he
        rfl
      · rw [List.mem_singleton.mp he]
        rfl
  have hm : m.flatMap DetectorEvent.drifts = [] := by
    refine List.flatMap_eq_nil_iff.mpr fun e he => ?_
    obtain ⟨url, error, rfl⟩ := hfailed e he
    rfl
  rw [reported, htold, List.flatMap_append, List.flatMap_append, hannounced, hl, hm, List.append_nil, List.append_nil]

theorem saves_iff (h : d.Writes v now r live report w p) : d.Saves v now r ↔ d.settings.autoFix = true ∧
    (∃ x ∈ report.drifts, x.isFixable = true) ∧ (d.baseline.save live w).2 = .ok () := by
  obtain ⟨l, m, htold, hfailed, hfix⟩ := h.told
  have hsaves : d.Saves v now r ↔ ∃ version, .baselineSaved d.baseline.path version ∈ l := by
    refine exists_congr fun version => ?_
    have hannounced : .baselineSaved d.baseline.path version ∉ announcement report p := by
      unfold announcement
      split <;> simp
    have hm : .baselineSaved d.baseline.path version ∉ m := by
      intro he
      obtain ⟨url, error, he⟩ := hfailed _ he
      cases he
    rw [htold, List.mem_append, List.mem_append, or_iff_left hm, or_iff_right hannounced]
  rw [hsaves]
  cases hfix with
  | nothing hnone _ =>
    refine ⟨fun ⟨_, he⟩ => (nomatch he), fun ⟨hauto, ⟨x, hx, hfixable⟩, _⟩ => ?_⟩
    rw [hnone hauto x hx] at hfixable
    cases hfixable
  | unsaved f hauto hsome hsave =>
    refine ⟨fun ⟨_, he⟩ => (nomatch he), fun ⟨_, _, hok⟩ => ?_⟩
    rw [hsave] at hok
    cases hok
  | saved hauto hsome hsave => exact ⟨fun _ => ⟨hauto, hsome, by rw [hsave]⟩, fun _ => ⟨live.version, by simp⟩⟩

theorem save_eq (h : d.Writes v now r live report w p) (hs : d.Saves v now r) :
    d.baseline.save live w = ((d.detect v now r).2.tree, .ok ()) := by
  obtain ⟨hauto, ⟨x, hx, hfixable⟩, hok⟩ := h.saves_iff.mp hs
  obtain ⟨l, m, _, _, hfix⟩ := h.told
  cases hfix with
  | nothing hnone _ =>
    rw [hnone hauto x hx] at hfixable
    cases hfixable
  | unsaved f _ _ hsave =>
    rw [hsave] at hok
    cases hok
  | saved _ _ hsave => exact hsave

theorem alters_of_not_saves (h : d.Writes v now r live report w p) (hs : ¬ d.Saves v now r) :
    Alters (fun _ => False) (· = w.place d.baseline.temporary) w (d.detect v now r).2.tree := by
  obtain ⟨l, m, _, _, hfix⟩ := h.told
  cases hfix with
  | nothing _ ht =>
    rw [ht]
    exact .refl _ _ w
  | unsaved f _ _ hsave => exact BaselineFile.alters_of_save_error hsave
  | saved hauto hsome hsave => exact absurd (h.saves_iff.mpr ⟨hauto, hsome, by rw [hsave]⟩) hs

theorem exists_directory (h : d.Writes v now r live report w p) : ∃ l n,
    (d.detect v now r).2.tree.locate d.archive.directory = .ok l ∧
      (d.detect v now r).2.tree.entry? l = some (.directory n) := by
  obtain ⟨_, _, _, _, l, n, hl, hd⟩ := ReportArchive.write_ok h.written
  have ha : Alters (fun _ => False) (d.baseline.Touches w) w (d.detect v now r).2.tree := by
    by_cases hs : d.Saves v now r
    · exact BaselineFile.alters_of_save_ok (h.save_eq hs)
    · exact (h.alters_of_not_saves hs).mono (fun _ => id) fun _ => .inl
  exact ⟨l, n, ha.locate hl, ha.directory hd⟩

end Writes

/-- What a run reports is what its report lists, when it returns one. -/
theorem reported_of_result {o : Outcome Report} (ho : (d.detect v now r).1 = .ok o)
    (hreport : o.result = .ok report) :
    d.reported v now r = report.drifts := by
  rcases writes_or_quiet d v now r with ⟨live, report', w, p, h⟩ | h
  · rw [h.reported_eq]
    cases (h.returned o ho).symm.trans hreport
    rfl
  · rw [reported, h.told, h.returned o report ho hreport]
    rfl

/-! ## The next run -/

section
variable (hroutes : d.routes = none) (hforms : d.forms = none)

include hroutes in
theorem tree_buildReport (v : Services σ) (now : Moment) (r : DetectorRun σ) :
    (d.buildReport v now { r with warnings := [] }).2.tree = r.tree := by
  refine (keeps_buildReport (R := fun t t' => t' = t) (fun _ => rfl) (fun _ _ _ h h' => h'.trans h) ?_ now _).1
  intro project hproject
  cases hroutes.symm.trans hproject

include hroutes hforms in
theorem reported_eq (henabled : d.settings.enabled = true) (hv : NoMigration v)
    (hlive : (v.analyze r.outside).2 = .ok live) {baseline : Option Snapshot}
    (hload : d.baseline.load now r.tree = .ok baseline) {l : Location} {n : Nat}
    (hl : r.tree.locate d.archive.directory = .ok l) (hd : r.tree.entry? l = some (.directory n)) :
    d.reported v now r = d.settings.keep (expectedDrifts live baseline) := by
  have hbuilt := result_buildReport (r := { r with warnings := [] }) hv hroutes hforms hlive hload
  have hsteady := tree_buildReport hroutes v now r
  rw [← hsteady] at hl hd
  obtain ⟨k, _, hwrite⟩ := ReportArchive.write_eq hl hd
    (reportOf now baseline live (d.settings.keep (expectedDrifts live baseline)))
  exact (writes_of henabled hbuilt hwrite).reported_eq

include hroutes hforms in
theorem reported_again (now' : Moment) (hv' : NoMigration v') (hlive : (v.analyze r.outside).2 = .ok live)
    (hlive' : (v'.analyze r'.outside).2 = .ok live') (hsame : live.Alike live')
    (htree : r'.tree = (d.detect v now r).2.tree) (hs : ¬ d.Saves v now r) :
    ∀ x ∈ d.reported v now r, x ∈ d.reported v' now' r' := by
  intro x hx
  rcases writes_or_quiet d v now r with ⟨live₁, report, w, p, h⟩ | h
  · obtain ⟨hanalyzed, baseline, ofSchema, ofRoutes, ofForms, hload, ⟨u, hu⟩, hr, hf, hdrifts, -⟩ :=
      buildReport_ok h.built
    cases hanalyzed.symm.trans hlive
    rw [h.reported_eq, hdrifts, hr hroutes, hf hforms, List.append_nil, List.append_nil] at hx
    obtain ⟨hx, hkept⟩ := List.mem_filter.mp hx
    have hx := schemaDrifts_subset hu x hx
    cases baseline with
    | none => cases hx
    | some b =>
      have hwritten := h.written
      rw [tree_buildReport hroutes] at hwritten
      obtain ⟨_, _, _, hw, _⟩ := ReportArchive.write_ok hwritten
      have hfix := h.alters_of_not_saves hs
      rw [hw.place, ← htree] at hfix
      -- The first run added its report and at most a draft, neither of which the second one reads.
      have hall : Alters (· = r.tree.place p) (· = r.tree.place d.baseline.temporary) r.tree r'.tree :=
        (hw.mono (fun _ => id) fun _ => False.elim).trans (hfix.mono (fun _ => False.elim) fun _ => id)
      have hne := (d.baseline.place_temporary_ne r.tree).symm
      obtain ⟨m, hm⟩ := BaselineFile.load_of_alters hall hne hload now'
      obtain ⟨l, n, hl, hd⟩ := h.exists_directory
      rw [← htree] at hl hd
      rw [reported_eq hroutes hforms h.enabled hv' hlive' hm hl hd]
      rw [expectedDrifts_alike hsame (.of_time b m)] at hx
      exact List.mem_filter.mpr ⟨hx, hkept⟩
  · rw [reported, h.told] at hx
    cases hx

include hroutes hforms in
theorem reported_of_saves (now' : Moment) (hv' : NoMigration v') (hlive : (v.analyze r.outside).2 = .ok live)
    (hlive' : (v'.analyze r'.outside).2 = .ok live') (hsame : live.Alike live') (hclock : live.capturedAt.WellFormed)
    (htree : r'.tree = (d.detect v now r).2.tree) (hs : d.Saves v now r) :
    d.baseline.load now' r'.tree = .ok (some live) ∧
      d.reported v' now' r' = d.settings.keep (live.compare live) := by
  rcases writes_or_quiet d v now r with ⟨live₁, report, w, p, h⟩ | h
  · cases (buildReport_ok h.built).1.symm.trans hlive
    have hload := BaselineFile.load_of_save (h.save_eq hs) hclock now'
    obtain ⟨l, n, hl, hd⟩ := h.exists_directory
    rw [← htree] at hload hl hd
    rw [reported_eq hroutes hforms h.enabled hv' hlive' hload hl hd, expectedDrifts_self hsame]
    exact ⟨hload, rfl⟩
  · obtain ⟨version, he⟩ := hs
    rw [h.told] at he
    cases he

/-- The baseline can be saved when a report was written. -/
def CanSave (d : Detector) (live : Snapshot) (t : FileTree) : Prop :=
  ∀ report w p, d.archive.write report t = (w, .ok p) → (d.baseline.save live w).2 = .ok ()

theorem canSave_of {t : FileTree} {l : Location} {n : Nat} (hl : t.locate d.archive.directory = .ok l)
    (hd : t.entry? l = some (.directory n)) (hready : d.baseline.Ready t) (live : Snapshot) : d.CanSave live t := by
  intro report w p hw
  obtain ⟨j, hnone, hwrite⟩ := ReportArchive.write_eq hl hd report
  obtain ⟨_, _, _, ha, _⟩ := ReportArchive.write_ok hw
  obtain ⟨m, k, hm, hd'⟩ := hready.directory
  have hfree : ∀ x, d.baseline.Touches w x → (w.entry? x).any Entry.isDirectory = false := by
    intro x hx
    cases hwrite.symm.trans hw
    rw [entry?_put (by rw [hnone]; rfl)]
    split
    · rfl
    · exact hready.free x ((BaselineFile.touches_of_home ha.home).mp hx)
  obtain ⟨t', hs⟩ := BaselineFile.Ready.exists_save ⟨hready.named, ⟨m, k, ha.locate hm, ha.directory hd'⟩, hfree⟩ live
  rw [hs]

theorem fixable_of_saves (hs : d.Saves v now r) :
    d.settings.autoFix = true ∧ ∃ x ∈ d.reported v now r, x.isFixable = true := by
  rcases writes_or_quiet d v now r with ⟨live, report, w, p, h⟩ | h
  · obtain ⟨hauto, hsome, _⟩ := h.saves_iff.mp hs
    rw [h.reported_eq]
    exact ⟨hauto, hsome⟩
  · obtain ⟨version, he⟩ := hs
    rw [h.told] at he
    cases he

include hroutes in
theorem saves_of_fixable (hlive : (v.analyze r.outside).2 = .ok live) (hauto : d.settings.autoFix = true)
    (hcan : d.CanSave live r.tree) (hsome : ∃ x ∈ d.reported v now r, x.isFixable = true) : d.Saves v now r := by
  rcases writes_or_quiet d v now r with ⟨live₁, report, w, p, h⟩ | h
  · cases (buildReport_ok h.built).1.symm.trans hlive
    have hwritten := h.written
    rw [tree_buildReport hroutes] at hwritten
    rw [h.reported_eq] at hsome
    exact h.saves_iff.mpr ⟨hauto, hsome, hcan _ _ _ hwritten⟩
  · obtain ⟨x, hx, _⟩ := hsome
    rw [reported, h.told] at hx
    cases hx

include hroutes hforms in
/-- The next run on an unchanged schema reports every drift again, unless one that is fixable was among them. With
automatic fixes and a baseline that can be saved, that one takes all the others along: the live schema is the
baseline then, and what it shows against itself is all that is reported, which is nothing when its names are
distinct. -/
theorem detect_again (now now' : Moment) (hv' : NoMigration v') (hlive : (v.analyze r.outside).2 = .ok live)
    (hlive' : (v'.analyze r'.outside).2 = .ok live') (hsame : live.Alike live') (hclock : live.capturedAt.WellFormed)
    (htree : r'.tree = (d.detect v now r).2.tree) :
    ((∀ x ∈ d.reported v now r, x.isFixable = false) → ∀ x ∈ d.reported v now r, x ∈ d.reported v' now' r') ∧
      (d.settings.autoFix = true → d.CanSave live r.tree → (∃ x ∈ d.reported v now r, x.isFixable = true) →
        d.baseline.load now' r'.tree = .ok (some live) ∧
          d.reported v' now' r' = d.settings.keep (live.compare live) ∧
          (live.NamesDistinct → d.reported v' now' r' = [])) := by
  constructor
  · intro hnone
    refine reported_again hroutes hforms now' hv' hlive hlive' hsame htree fun hs => ?_
    obtain ⟨_, x, hx, hfixable⟩ := fixable_of_saves hs
    rw [hnone x hx] at hfixable
    cases hfixable
  · intro hauto hcan hsome
    have hs := saves_of_fixable hroutes hlive hauto hcan hsome
    obtain ⟨hload, hreported⟩ :=
      reported_of_saves hroutes hforms now' hv' hlive hlive' hsame hclock htree hs
    refine ⟨hload, hreported, fun hnames => ?_⟩
    rw [hreported, Snapshot.compare_self hnames.columns]
    rfl

end

def keptProject (baseline : Snapshot) : FileTree where
  entries := [
    (["project"], .directory 0),
    (["project", "schema"], .directory 0),
    (["project", "schema", "schema.json"], .file (.text (Json.indented baseline.toDatum)) 0),
    (["project", "drift-reports"], .directory 0)]
  home := ["project"]
  clock := 0

theorem load_keptProject {b : Snapshot} (h : b.capturedAt.WellFormed) (now : Moment) :
    ofProject.baseline.load now (keptProject b) = .ok (some b) :=
  BaselineFile.load_of_entry (t := keptProject b) rfl rfl h now

theorem canSave_keptProject (b live : Snapshot) : ofProject.CanSave live (keptProject b) := by
  refine canSave_of (l := ["project", "drift-reports"]) rfl rfl ⟨by decide, ⟨["project", "schema"], _, rfl, rfl⟩, ?_⟩ live
  rintro x (rfl | rfl) <;> rfl

def keptRun (baseline : Snapshot) : DetectorRun Unit where
  outside := ()
  tree := keptProject baseline

theorem noMigration_always (live : Snapshot) : NoMigration (Services.always live) := fun _ h => (nomatch h)

theorem reported_keptRun {b live : Snapshot} (h : b.capturedAt.WellFormed) (now : Moment) {x : Drift}
    (hx : x ∈ b.compare live) : x ∈ ofProject.reported (.always live) now (keptRun b) := by
  have hkept : (!ofProject.settings.allows x && !ofProject.settings.ignores x) = true := by
    simp [ofProject, DriftSettings.allows, DriftSettings.ignores]
  rw [reported_eq (r := keptRun b) rfl rfl rfl (noMigration_always live) rfl (load_keptProject h now) rfl rfl]
  exact List.mem_filter.mpr ⟨List.mem_append_left _ hx, hkept⟩

/-- Another type and another index: a heavy drift, and one that is fixable. -/
theorem orders_drifts : (∃ x ∈ (Snapshot.orders "integer" "by_total").compare (.orders "text" "totals"),
      x.severity = .high) ∧
    ∃ x ∈ (Snapshot.orders "integer" "by_total").compare (.orders "text" "totals"), x.isFixable = true := by
  have hdiffers := @Snapshot.exists_of_differs _ _ (Snapshot.orders_namesDistinct "integer" "by_total")
    (Snapshot.orders_namesDistinct "text" "totals")
  constructor
  · obtain ⟨x, hx, h⟩ := hdiffers (x := .columnType "orders" ⟨"total", "integer", true, false, false, none, none⟩
      ⟨"total", "text", true, false, false, none, none⟩)
      ⟨_, _, ⟨.head _, .head _, rfl, rfl⟩, .tail _ (.head _), .tail _ (.head _), rfl, by decide⟩
    exact ⟨x, hx, congrArg Finding.severity h⟩
  · obtain ⟨⟨type, severity, object, expected, actual, message⟩, hx, h⟩ :=
      hdiffers (x := .extraIndex ⟨"orders", "totals", ["total"], false⟩)
        ⟨_, _, rfl, rfl, .head _, ⟨.head _, .head _⟩, fun i hi _ => by rw [List.mem_singleton.mp hi]; decide⟩
    cases h
    exact ⟨_, hx, rfl⟩

/-- A heavy drift is not reported again when a fixable one came with it. -/
theorem not_reported_again_orders :
    ofProject.settings.autoFix = true ∧ ofProject.routes = none ∧ ofProject.forms = none ∧
      NoMigration (Services.always (.orders "text" "totals")) ∧
      ofProject.CanSave (.orders "text" "totals") (keptProject (.orders "integer" "by_total")) ∧
      ∀ now now', ∃ x ∈ ofProject.reported (.always (.orders "text" "totals")) now
          (keptRun (.orders "integer" "by_total")), x.severity = .high ∧
        x ∉ ofProject.reported (.always (.orders "text" "totals")) now'
          (ofProject.detect (.always (.orders "text" "totals")) now (keptRun (.orders "integer" "by_total"))).2 := by
  have hv := noMigration_always (.orders "text" "totals")
  have hwell := Snapshot.orders_wellFormed "integer" "by_total"
  have hcan := canSave_keptProject (.orders "integer" "by_total") (.orders "text" "totals")
  refine ⟨rfl, rfl, rfl, hv, hcan, fun now now' => ?_⟩
  obtain ⟨⟨x, hx, hhigh⟩, y, hy, hfixable⟩ := orders_drifts
  have hs : ofProject.Saves (.always (.orders "text" "totals")) now (keptRun (.orders "integer" "by_total")) :=
    saves_of_fixable rfl rfl rfl hcan ⟨y, reported_keptRun hwell now hy, hfixable⟩
  obtain ⟨_, hnext⟩ := reported_of_saves rfl rfl now' hv rfl rfl (.of_time _ _)
    (Snapshot.orders_wellFormed "text" "totals") rfl hs
  refine ⟨x, reported_keptRun hwell now hx, hhigh, ?_⟩
  rw [hnext, Snapshot.compare_self (Snapshot.orders_namesDistinct "text" "totals").columns]
  exact List.not_mem_nil

theorem detect_again_orders :
    NoMigration (Services.always (.orders "text" "totals")) ∧
      (Snapshot.orders "text" "totals").capturedAt.WellFormed ∧ (Snapshot.orders "text" "totals").NamesDistinct ∧
      ofProject.CanSave (.orders "text" "totals") (keptProject (.orders "integer" "by_total")) ∧
      ∀ now now', (∃ x ∈ ofProject.reported (.always (.orders "text" "totals")) now
          (keptRun (.orders "integer" "by_total")), x.isFixable = true) ∧
        ofProject.reported (.always (.orders "text" "totals")) now'
          (ofProject.detect (.always (.orders "text" "totals")) now (keptRun (.orders "integer" "by_total"))).2 =
            [] := by
  have hv := noMigration_always (.orders "text" "totals")
  have hclock := Snapshot.orders_wellFormed "text" "totals"
  have hnames := Snapshot.orders_namesDistinct "text" "totals"
  have hcan := canSave_keptProject (.orders "integer" "by_total") (.orders "text" "totals")
  refine ⟨hv, hclock, hnames, hcan, fun now now' => ?_⟩
  obtain ⟨_, y, hy, hfixable⟩ := orders_drifts
  have hsome : ∃ x ∈ ofProject.reported (.always (.orders "text" "totals")) now
      (keptRun (.orders "integer" "by_total")), x.isFixable = true :=
    ⟨y, reported_keptRun (Snapshot.orders_wellFormed "integer" "by_total") now hy, hfixable⟩
  obtain ⟨_, hnext⟩ := detect_again (d := ofProject) (v := .always (.orders "text" "totals"))
    (r := keptRun (.orders "integer" "by_total")) rfl rfl now now' hv rfl rfl (.of_time _ _) hclock rfl
  exact ⟨hsome, (hnext rfl hcan hsome).2.2 hnames⟩

end Detector

end SchemaConcord
