import SchemaConcord.Proofs.Drift.Detection
import SchemaConcord.Proofs.Drift.Discrepancy

/-!
# What a detection leaves alone

One detection writes at most one report, and no report is ever written over. It changes the baseline only to fix a
report that was written, and then the baseline loads as the live schema. It changes no other file that was there,
and a detection that fails changes neither baseline nor reports (`detect_confined`).
-/

namespace SchemaConcord

open FileTree Detecting

/-- Schemas come with times that calendars and clocks have. -/
def Services.InCalendar {σ : Type} (v : Services σ) : Prop :=
  ∀ s live, (v.analyze s).2 = .ok live → live.capturedAt.WellFormed

/-- Services that answer with one schema, have no migration log, and accept every message. -/
def Services.always (live : Snapshot) : Services Unit where
  analyze s := (s, .ok live)
  history := none
  post _ _ s := (s, .answered 200)

theorem Services.always_inCalendar {live : Snapshot} (h : live.capturedAt.WellFormed) :
    (Services.always live).InCalendar := by
  intro s x hx
  cases hx
  exact h

theorem Snapshot.orders_wellFormed (totalType indexName : String) :
    (orders totalType indexName).capturedAt.WellFormed := by
  refine ⟨rfl, fun o ho => ?_⟩
  cases ho
  decide

def emptyProject : FileTree := ⟨[], ["project"], 0⟩

theorem BaselineFile.lastChar?_temporary (b : BaselineFile) (t : FileTree) :
    (t.place b.temporary).lastChar? = some 'p' := by
  refine lastChar?_place (p := b.temporary) rfl ?_ (by decide) t
  rw [String.toList_append, List.getLast?_append]
  rfl

namespace Detector

variable {σ : Type} {d : Detector} {v : Services σ} {t t' : FileTree}

def IsStub (d : Detector) (t : FileTree) (l : Location) : Prop :=
  ∃ project, d.routes = some project ∧ project.IsStub t l

def IsNewReport (d : Detector) (t t' : FileTree) (l : Location) : Prop :=
  d.archive.IsReport t l ∧ t.fileAt? l = none ∧ t'.fileAt? l ≠ none

/-- What a run may leave behind, given what the analyzer answered and how the run ended. -/
structure Confined (d : Detector) (live : Except AnalysisFault Snapshot) (t t' : FileTree)
    (result : Except DetectorFault (Outcome Report)) : Prop where
  oneReport : ∀ l m, d.IsNewReport t t' l → d.IsNewReport t t' m → l = m
  /-- A run that fails keeps baseline and reports, and adds none. -/
  failed : ∀ o f, result = .ok o → o.result = .error f →
    ∀ l, d.archive.IsReport t l ∨ l = t.place d.baseline.path → t'.fileAt? l = t.fileAt? l
  /-- The baseline changes only after a report with a fixable drift, and then to the live schema. -/
  baseline : t'.fileAt? (t.place d.baseline.path) ≠ t.fileAt? (t.place d.baseline.path) →
    d.settings.autoFix = true ∧ ∃ report l n s,
      d.IsNewReport t t' l ∧ t'.fileAt? l = some (.file (.text (Json.indented report.toDatum)) n) ∧
      (∀ o, result = .ok o → o.result = .ok report) ∧
      (∃ x ∈ report.drifts, x.severity = .low ∧ x.suggest.kind = .schemaUpdate) ∧
      live = .ok s ∧ ∀ now, d.baseline.load now t' = .ok (some s)
  others : ∀ l e, l ≠ t.place d.baseline.path → l ≠ t.place d.baseline.temporary → t.fileAt? l = some e →
    t'.fileAt? l = some e

/-! ## Before the report -/

theorem confined_of_stubs {live : Except AnalysisFault Snapshot} {result : Except DetectorFault (Outcome Report)}
    (h : Alters (d.IsStub t) (fun _ => False) t t') (hstub : ¬ d.IsStub t (t.place d.baseline.path)) :
    Confined d live t t' result := by
  have hreport : ∀ l, d.archive.IsReport t l → t'.fileAt? l = t.fileAt? l := by
    intro l hl
    refine h.fileAt? (fun ⟨project, _, hp⟩ => ?_) id
    cases (ReportArchive.lastChar?_of_isReport hl).symm.trans (RouteProject.lastChar?_of_isStub hp)
  have hbaseline := h.fileAt? hstub id
  refine ⟨fun l m hl _ => ?_, fun o f _ _ l hl => ?_, fun hne => absurd hbaseline hne, fun l e _ _ hl => ?_⟩
  · exact absurd ((hreport l hl.1).trans hl.2.1) hl.2.2
  · rcases hl with hl | rfl
    · exact hreport l hl
    · exact hbaseline
  · obtain ⟨he, hfile⟩ := fileAt?_eq_some.mp hl
    exact fileAt?_eq_some.mpr ⟨h.file he id, hfile⟩

theorem alters_buildReport (d : Detector) (v : Services σ) (now : Moment) (r : DetectorRun σ) :
    Alters (d.IsStub r.tree) (fun _ => False) r.tree (d.buildReport v now r).2.tree := by
  have hmove : ∀ {t u : FileTree}, u.home = t.home → ∀ l, d.IsStub u l → d.IsStub t l := by
    rintro t u h l ⟨project, hproject, s, hs⟩
    exact ⟨project, hproject, s, hs.trans (place_of_home h _)⟩
  refine (keeps_buildReport (R := fun t u => Alters (d.IsStub t) (fun _ => False) t u) ?_ ?_ ?_ now r).1
  · exact fun t => .refl _ _ t
  · exact fun t u w h h' => h.trans (h'.mono (hmove h.home) fun _ => id)
  · intro project hproject live t
    exact (project.validate_alters live t).mono (fun l hl => ⟨project, hproject, hl⟩) fun _ => id

/-! ## After the report -/

/-- Fixing touches the baseline and its temporary file, the baseline only when it is saved. -/
theorem Fixes.alters {live : Snapshot} {report : Report} {events : List DetectorEvent}
    (h : Fixes d live report t t' events) (hlive : live.capturedAt.WellFormed) : ∃ free : Location → Prop,
      Alters (fun _ => False) free t t' ∧ (∀ m, free m → d.baseline.Touches t m) ∧
        (free (t.place d.baseline.path) → d.settings.autoFix = true ∧ (∃ x ∈ report.drifts, x.isFixable = true) ∧
          ∀ now, d.baseline.load now t' = .ok (some live)) := by
  cases h with
  | nothing _ h =>
    rw [h]
    exact ⟨fun _ => False, .refl _ _ t, fun _ => False.elim, False.elim⟩
  | unsaved f _ _ hsave =>
    exact ⟨_, BaselineFile.alters_of_save_error hsave, fun m => .inl,
      fun h => absurd h.symm (d.baseline.place_temporary_ne t)⟩
  | saved hauto hsome hsave =>
    exact ⟨_, BaselineFile.alters_of_save_ok hsave, fun _ => id,
      fun _ => ⟨hauto, hsome, BaselineFile.load_of_save hsave hlive⟩⟩

/-- A run that has written its report at `l` and may have gone on to fix it. -/
theorem confined_of_report {live : Snapshot} {result : Except DetectorFault (Outcome Report)} {report : Report}
    {u : FileTree} {l : Location} {n : Nat} {events : List DetectorEvent} (hlive : live.capturedAt.WellFormed)
    (hu : Alters (fun m => d.IsStub t m ∨ m = l) (fun _ => False) t u) (hl : d.archive.IsReport t l)
    (hnone : t.entry? l = none) (hwritten : u.entry? l = some (.file (.text (Json.indented report.toDatum)) n))
    (hresult : ∀ o, result = .ok o → o.result = .ok report) (hfix : Fixes d live report u t' events)
    (hreport : ¬ d.archive.IsReport t (t.place d.baseline.path)) (hstub : ¬ d.IsStub t (t.place d.baseline.path)) :
    Confined d (.ok live) t t' result := by
  have hlast := fun m => ReportArchive.lastChar?_of_isReport (a := d.archive) (t := t) (l := m)
  have htemporary : ∀ m, d.archive.IsReport t m → m ≠ t.place d.baseline.temporary := by
    rintro m hm rfl
    cases (hlast _ hm).symm.trans (d.baseline.lastChar?_temporary t)
  have hbaseline : ∀ m, d.archive.IsReport t m → m ≠ t.place d.baseline.path := by
    rintro m hm rfl
    exact hreport hm
  obtain ⟨free, hfree, htouch, hsaved⟩ := hfix.alters hlive
  rw [hu.place] at hsaved
  have htouch : ∀ m, free m → d.baseline.Touches t m := fun m hm =>
    (BaselineFile.touches_of_home hu.home).mp (htouch m hm)
  have hall : Alters (fun m => d.IsStub t m ∨ m = l) free t t' :=
    (hu.mono (fun _ => id) fun _ => False.elim).trans (hfree.mono (fun _ => False.elim) fun _ => id)
  -- A report never stands where the baseline or its draft does, so that saving leaves every report alone.
  have hnotfree : ∀ m, d.archive.IsReport t m → ¬ free m := by
    intro m hm hf
    rcases htouch m hf with h | h
    · exact htemporary m hm h
    · exact hbaseline m hm h
  have hnew : ∀ m, d.IsNewReport t t' m → m = l := by
    rintro m ⟨hm, hnone, hsome⟩
    by_contra hne
    refine hsome ((hall.fileAt? ?_ (hnotfree m hm)).trans hnone)
    rintro (⟨project, _, hp⟩ | h)
    · cases (hlast m hm).symm.trans (RouteProject.lastChar?_of_isStub hp)
    · exact hne h
  have hthere : t'.fileAt? l = some (.file (.text (Json.indented report.toDatum)) n) :=
    fileAt?_eq_some.mpr ⟨hfree.file hwritten (hnotfree l hl), rfl⟩
  refine ⟨fun m m' hm hm' => (hnew m hm).trans (hnew m' hm').symm, fun o f ho hf => ?_, fun hne => ?_,
    fun m e hb htmp hm => ?_⟩
  · cases (hresult o ho).symm.trans hf
  · have hmade : ¬ (d.IsStub t (t.place d.baseline.path) ∨ t.place d.baseline.path = l) := by
      rintro (h | h)
      · exact hstub h
      · exact hbaseline l hl h.symm
    have hf : free (t.place d.baseline.path) := by
      by_contra hf
      exact hne (hall.fileAt? hmade hf)
    obtain ⟨hauto, ⟨x, hx, hfixable⟩, hload⟩ := hsaved hf
    simp only [Drift.isFixable, Bool.and_eq_true, decide_eq_true_eq] at hfixable
    have hnone' : t.fileAt? l = none := by
      rw [FileTree.fileAt?, hnone]
      rfl
    exact ⟨hauto, report, l, n, live, ⟨hl, hnone', by rw [hthere]; simp⟩, hthere, hresult, ⟨x, hx, hfixable⟩, rfl,
      hload⟩
  · obtain ⟨he, hfile⟩ := fileAt?_eq_some.mp hm
    refine fileAt?_eq_some.mpr ⟨hall.file he fun hf => ?_, hfile⟩
    rcases htouch m hf with h | h
    · exact htmp h
    · exact hb h

/-! ## Whole runs -/

theorem detect_confined (d : Detector) (v : Services σ) (now : Moment) (r : DetectorRun σ) (hv : v.InCalendar)
    (hreport : ¬ d.archive.IsReport r.tree (r.tree.place d.baseline.path))
    (hstub : ¬ d.IsStub r.tree (r.tree.place d.baseline.path)) :
    Confined d (v.analyze r.outside).2 r.tree (d.detect v now r).2.tree (d.detect v now r).1 := by
  have hbuild := alters_buildReport d v now { r with warnings := [] }
  rcases writes_or_quiet d v now r with ⟨live, report, w, p, h⟩ | h
  · have hanalyzed : (v.analyze r.outside).2 = .ok live := (buildReport_ok h.built).1
    obtain ⟨hl, hnone, ⟨n, hwritten⟩, ha, _⟩ := ReportArchive.write_ok h.written
    obtain ⟨l, m, _, _, hfix⟩ := h.told
    rw [hbuild.place] at hl hnone hwritten ha
    have hl : d.archive.IsReport r.tree (r.tree.place p) := ReportArchive.isReport_of_home hbuild.home hl
    have hnone : r.tree.entry? (r.tree.place p) = none := by
      cases he : r.tree.entry? (r.tree.place p) with
      | none => rfl
      | some e => cases hnone.symm.trans (hbuild.file he id)
    have hall : Alters (fun m => d.IsStub r.tree m ∨ m = r.tree.place p) (fun _ => False) r.tree w :=
      (hbuild.mono (fun _ => .inl) fun _ => id).trans (ha.mono (fun _ => .inr) fun _ => id)
    rw [hanalyzed]
    exact confined_of_report (hv _ _ hanalyzed) hall hl hnone hwritten h.returned hfix hreport hstub
  · obtain ⟨t, ht, hadds⟩ := h.tree
    have hadds : Alters (d.IsStub r.tree) (fun _ => False) t (d.detect v now r).2.tree :=
      hadds.mono (fun _ => False.elim) fun _ => id
    refine confined_of_stubs ?_ hstub
    rcases ht with rfl | rfl
    · exact hadds
    · exact hbuild.trans hadds

def ofProject : Detector where
  settings := { autoFix := true }
  baseline := ⟨⟨"", ["schema", "schema.json"]⟩⟩
  archive := ⟨⟨"", ["drift-reports"]⟩⟩

theorem not_isReport_ofProject :
    ¬ ofProject.archive.IsReport emptyProject (emptyProject.place ofProject.baseline.path) := by
  rintro ⟨name, hname, h⟩
  rw [place_child (ReportArchive.ne_of_isReportName hname)] at h
  have hlast := congrArg List.getLast? h
  rw [List.getLast?_append] at hlast
  obtain rfl : "schema.json" = name := Option.some.inj hlast
  exact absurd hname.1 (by decide)

theorem not_isStub_ofProject : ¬ ofProject.IsStub emptyProject (emptyProject.place ofProject.baseline.path) := by
  rintro ⟨project, hproject, _⟩
  cases hproject

theorem detect_confined_orders :
    (Services.always (Snapshot.orders "integer" "by_total")).InCalendar ∧
      ¬ ofProject.archive.IsReport emptyProject (emptyProject.place ofProject.baseline.path) ∧
      ¬ ofProject.IsStub emptyProject (emptyProject.place ofProject.baseline.path) ∧
      ∀ now, Confined ofProject (.ok (Snapshot.orders "integer" "by_total")) emptyProject
        (ofProject.detect (.always (Snapshot.orders "integer" "by_total")) now ⟨(), emptyProject, .idle, [], []⟩).2.tree
        (ofProject.detect (.always (Snapshot.orders "integer" "by_total")) now ⟨(), emptyProject, .idle, [], []⟩).1 :=
  have hv := Services.always_inCalendar (Snapshot.orders_wellFormed "integer" "by_total")
  ⟨hv, not_isReport_ofProject, not_isStub_ofProject,
    fun now => detect_confined ofProject _ now ⟨(), emptyProject, .idle, [], []⟩ hv not_isReport_ofProject
      not_isStub_ofProject⟩

end Detector

end SchemaConcord
