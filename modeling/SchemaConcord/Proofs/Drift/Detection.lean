import SchemaConcord.Proofs.Drift.Archive
import SchemaConcord.Proofs.Drift.Baseline
import SchemaConcord.Proofs.Drift.Run

/-!
# Whole detections

A detection that writes its report goes on with the fix, which may save the baseline, and with the webhook
(`Writes`). Any other tells nothing, and leaves nothing behind but what the check of routes wrote and new directories
(`Quiet`). There is no third way (`writes_or_quiet`).
-/

namespace SchemaConcord

open FileTree Detecting

namespace Detector

variable {σ ε : Type} {d : Detector} {v : Services σ} {r r' : DetectorRun σ}

/-! ## After the report -/

theorem events_note (a : DetectorAction) (r : DetectorRun σ) (state : DetectorState) :
    DetectorRun.events { r with trace := r.trace ++ [(state, a)] } = r.events ++ match a with
      | .emit e => [e]
      | _ => [] := by
  show (r.trace ++ [(state, a)]).filterMap _ = _
  rw [List.filterMap_append]
  cases a <;> rfl

theorem run_emit_all (l : List Drift) (r : DetectorRun σ) :
    ∃ u, (l.forM fun x => emit (.driftFixed x) : Detecting σ ε Unit) r = (.ok (), u) ∧ u.tree = r.tree ∧
      u.events = r.events ++ l.map .driftFixed := by
  induction l generalizing r with
  | nil => exact ⟨r, rfl, rfl, (List.append_nil _).symm⟩
  | cons x l ih =>
    obtain ⟨u, hu, ht, he⟩ := ih { r with trace := r.trace ++ [(r.state, .emit (.driftFixed x))] }
    refine ⟨u, ?_, ht, ?_⟩
    · show (emit (.driftFixed x) >>= fun _ => l.forM fun x => emit (.driftFixed x) : Detecting σ ε Unit) r = _
      rw [run_bind, emit, run_note]
      exact hu
    · rw [he, events_note, List.append_assoc]
      rfl

theorem attempt_save (d : Detector) (live : Snapshot) (r : DetectorRun σ) :
    (attempt (do enter .fixing; d.replaceBaseline live) : Detecting σ DetectorFault _) r =
      (.ok (d.baseline.save live r.tree).2, { r with
        state := .idle, tree := (d.baseline.save live r.tree).1, trace := r.trace ++ [(.fixing, .saveBaseline)] }) := by
  rw [run_attempt]
  simp only [replaceBaseline, run_bind, run_enter, run_note, run_onFiles, run_settle]
  cases (d.baseline.save live r.tree).2 <;> rfl

/-- What an attempt to fix a report does: nothing when nothing is fixable, else it saves the live schema, and tells of
it when that went well. -/
theorem fix_cases (d : Detector) (live : Snapshot) (report : Report) (r : DetectorRun σ) :
    ((∀ x ∈ report.drifts, x.isFixable = false) ∧ (d.fix live report r).2.tree = r.tree ∧
      (d.fix live report r).2.events = r.events) ∨
    ((∃ x ∈ report.drifts, x.isFixable = true) ∧ ∃ t' result, d.baseline.save live r.tree = (t', result) ∧
      (d.fix live report r).2.tree = t' ∧
      ((∃ f, result = .error f) ∧ (d.fix live report r).2.events = r.events ∨
        result = .ok () ∧ (d.fix live report r).2.events = r.events ++
          ((report.drifts.filter Drift.isFixable).map .driftFixed ++
            [.baselineSaved d.baseline.path live.version]))) := by
  unfold fix
  by_cases hf : (report.drifts.filter Drift.isFixable).isEmpty
  · left
    have hnone : ∀ x ∈ report.drifts, x.isFixable = false := by
      rw [List.isEmpty_iff, List.filter_eq_nil_iff] at hf
      exact fun x hx => by simpa using hf x hx
    simp only [if_pos hf]
    exact ⟨hnone, rfl, rfl⟩
  · right
    have hsome : ∃ x ∈ report.drifts, x.isFixable = true := by
      rw [List.isEmpty_iff, List.filter_eq_nil_iff] at hf
      simpa using hf
    -- The run as the attempt to save leaves it.
    let u : DetectorRun σ := { r with
      state := .idle, tree := (d.baseline.save live r.tree).1, trace := r.trace ++ [(.fixing, .saveBaseline)] }
    have hattempt := attempt_save d live r
    have hevents : u.events = r.events := by
      show (r.trace ++ [_]).filterMap _ = _
      rw [List.filterMap_append]
      exact List.append_nil _
    refine ⟨hsome, (d.baseline.save live r.tree).1, (d.baseline.save live r.tree).2, rfl, ?_⟩
    rw [if_neg hf, run_bind, hattempt]
    cases (d.baseline.save live r.tree).2 with
    | error f => cases f <;> exact ⟨rfl, .inl ⟨⟨_, rfl⟩, hevents⟩⟩
    | ok a =>
      obtain ⟨w, hw, ht, he⟩ := run_emit_all (report.drifts.filter Drift.isFixable) u
      dsimp only
      rw [run_bind, hw]
      dsimp only
      rw [run_bind, emit, run_note]
      refine ⟨ht, .inr ⟨rfl, ?_⟩⟩
      show DetectorRun.events { w with trace := _ } = _
      rw [events_note, he, hevents, List.append_assoc]

/-- Telling the webhook leaves the files alone, and tells of failures only. -/
theorem tell_events (url : String) (report : Report) (r : DetectorRun σ) :
    (tell v url report r).2.tree = r.tree ∧
      ∃ l, (tell v url report r).2.events = r.events ++ l ∧ ∀ e ∈ l, ∃ error, e = .notificationFailed url error := by
  have hpost : DetectorRun.events { r with trace := r.trace ++ [(r.state, .post report)] } = r.events := by
    rw [events_note]
    exact List.append_nil _
  unfold tell
  rw [run_bind, run_settle]
  cases WebAddress.parse url with
  | error f => exact ⟨rfl, [], (List.append_nil _).symm, by simp⟩
  | ok a =>
    dsimp only [Except.mapError]
    simp only [run_bind, run_note, run_ask, run_settle]
    cases Delivery.ofReply a (v.post a report.payload r.outside).2 with
    | error f => exact ⟨rfl, [], hpost.trans (List.append_nil _).symm, by simp⟩
    | ok delivery =>
      dsimp only [Except.mapError]
      cases delivery.error? with
      | none => exact ⟨rfl, [], hpost.trans (List.append_nil _).symm, by simp⟩
      | some error =>
        refine ⟨rfl, [.notificationFailed url error], ?_, fun e he => ⟨error, List.mem_singleton.mp he⟩⟩
        show DetectorRun.events { r with trace := (r.trace ++ [_]) ++ [_] } = _
        exact (events_note (.emit (.notificationFailed url error))
          { r with trace := r.trace ++ [(r.state, .post report)] } r.state).trans (congrArg (· ++ _) hpost)

def finish (d : Detector) (v : Services σ) (live : Snapshot) (report : Report) (p : Path) :
    Detecting σ DetectorFault (Outcome Report) := do
  if !report.drifts.isEmpty then emit (.driftDetected report p)
  let fixed ← if d.settings.autoFix then d.fix live report else pure 0
  if let some url := d.webhook then
    if !report.drifts.isEmpty then tell v url report
  return .ok report (← get).warnings [("report_path", .text p.text), ("auto_fixed", .ofNat fixed)]

def maybeFix (d : Detector) (live : Snapshot) (report : Report) : Detecting σ DetectorFault Nat :=
  if d.settings.autoFix then d.fix live report else pure 0

def maybeTell (d : Detector) (v : Services σ) (report : Report) : Detecting σ DetectorFault Unit :=
  match d.webhook with
  | some url => if !report.drifts.isEmpty then tell v url report else pure ()
  | none => pure ()

def announcement (report : Report) (p : Path) : List DetectorEvent :=
  if report.drifts.isEmpty then [] else [.driftDetected report p]

theorem run_finish (live : Snapshot) (report : Report) (p : Path) : ∃ u : DetectorRun σ, u.tree = r.tree ∧
    u.events = r.events ++ announcement report p ∧ (u.outside = r.outside ∧ u.warnings = r.warnings) ∧
    d.finish v live report p r = (do
      let fixed ← d.maybeFix live report
      d.maybeTell v report
      return .ok report (← get).warnings [("report_path", .text p.text), ("auto_fixed", .ofNat fixed)] :
        Detecting σ DetectorFault _) u := by
  unfold finish maybeFix maybeTell announcement
  by_cases h : report.drifts.isEmpty
  · refine ⟨r, rfl, by rw [if_pos h, List.append_nil], ⟨rfl, rfl⟩, ?_⟩
    cases d.settings.autoFix <;> cases d.webhook <;>
      simp only [h, Bool.not_true, Bool.false_eq_true, if_false, if_true] <;> rfl
  · refine ⟨{ r with trace := r.trace ++ [(r.state, .emit (.driftDetected report p))] }, rfl, ?_, ⟨rfl, rfl⟩, ?_⟩
    · rw [events_note, if_neg h]
    · rw [Bool.not_eq_true] at h
      cases d.settings.autoFix <;> cases d.webhook <;>
        simp only [h, Bool.not_false, Bool.false_eq_true, if_false, if_true] <;> rfl

theorem maybeTell_events (report : Report) (r : DetectorRun σ) : (d.maybeTell v report r).2.tree = r.tree ∧
    ∃ l, (d.maybeTell v report r).2.events = r.events ++ l ∧
      ∀ e ∈ l, ∃ url error, e = .notificationFailed url error := by
  have hnone : r.events = r.events ++ [] := (List.append_nil _).symm
  unfold maybeTell
  cases d.webhook with
  | none => exact ⟨rfl, [], hnone, by simp⟩
  | some url =>
    dsimp only
    by_cases h : (!report.drifts.isEmpty) = true
    · rw [if_pos h]
      obtain ⟨ht, l, he, hl⟩ := tell_events (v := v) url report r
      exact ⟨ht, l, he, fun e hm => ⟨url, hl e hm⟩⟩
    · rw [if_neg h]
      exact ⟨rfl, [], hnone, by simp⟩

/-- What is left of a run after its report: the fix, when it is asked for and something is fixable. -/
inductive Fixes (d : Detector) (live : Snapshot) (report : Report) (t t' : FileTree) : List DetectorEvent → Prop
  | nothing : (d.settings.autoFix = true → ∀ x ∈ report.drifts, x.isFixable = false) → t' = t →
      Fixes d live report t t' []
  | unsaved (f : SaveFault) : d.settings.autoFix = true → (∃ x ∈ report.drifts, x.isFixable = true) →
      d.baseline.save live t = (t', .error f) → Fixes d live report t t' []
  | saved : d.settings.autoFix = true → (∃ x ∈ report.drifts, x.isFixable = true) →
      d.baseline.save live t = (t', .ok ()) → Fixes d live report t t'
        ((report.drifts.filter Drift.isFixable).map .driftFixed ++ [.baselineSaved d.baseline.path live.version])

theorem maybeFix_fixes (live : Snapshot) (report : Report) (r : DetectorRun σ) :
    ∃ l, (d.maybeFix live report r).2.events = r.events ++ l ∧
      Fixes d live report r.tree (d.maybeFix live report r).2.tree l := by
  unfold maybeFix
  by_cases h : d.settings.autoFix = true
  · rw [if_pos h]
    rcases fix_cases d live report r with ⟨hnone, ht, he⟩ | ⟨hsome, t', result, hsave, ht, ⟨⟨f, rfl⟩, he⟩ | ⟨rfl, he⟩⟩
    · exact ⟨[], he.trans (List.append_nil _).symm, .nothing (fun _ => hnone) ht⟩
    · exact ⟨[], he.trans (List.append_nil _).symm, .unsaved f h hsome (ht ▸ hsave)⟩
    · exact ⟨_, he, .saved h hsome (ht ▸ hsave)⟩
  · rw [if_neg h]
    exact ⟨[], (List.append_nil _).symm, .nothing (fun h' => absurd h' h) rfl⟩

/-- A run that has written its report returns it if it returns, and does no more to files than fix. -/
theorem finish_spec (live : Snapshot) (report : Report) (p : Path) (r : DetectorRun σ) :
    (∀ o, (d.finish v live report p r).1 = .ok o → o.result = .ok report) ∧
      ∃ l m, (d.finish v live report p r).2.events = r.events ++ (announcement report p ++ l ++ m) ∧
        (∀ e ∈ m, ∃ url error, e = .notificationFailed url error) ∧
        Fixes d live report r.tree (d.finish v live report p r).2.tree l := by
  obtain ⟨u, hu, he, -, hrun⟩ := run_finish (d := d) (v := v) (r := r) live report p
  obtain ⟨l, hl, hfix⟩ := maybeFix_fixes (d := d) live report u
  rw [hrun, ← hu]
  rw [run_bind]
  cases hx : d.maybeFix live report u with
  | mk x w =>
    rw [hx] at hl hfix
    cases x with
    | error f =>
      refine ⟨fun o ho => (nomatch ho), l, [], ?_, by simp, hfix⟩
      rw [hl, he, List.append_nil, List.append_assoc]
    | ok fixed =>
      obtain ⟨ht, m, hm, hfailed⟩ := maybeTell_events (d := d) (v := v) report w
      dsimp only
      rw [run_bind]
      cases hy : d.maybeTell v report w with
      | mk y z =>
        rw [hy] at ht hm
        have hevents : z.events = r.events ++ (announcement report p ++ l ++ m) := by
          rw [hm, hl, he]
          simp only [List.append_assoc]
        have hfix' : Fixes d live report u.tree z.tree l := by
          rw [ht]
          exact hfix
        cases y with
        | error f => exact ⟨fun o ho => (nomatch ho), l, m, hevents, hfailed, hfix'⟩
        | ok a =>
          refine ⟨fun o ho => ?_, l, m, hevents, hfailed, hfix'⟩
          cases ho
          rfl

def failed (f : DetectionFault) (warnings : List String) : Outcome Report :=
  .fail ⟨.detectionFailed, "Failed to detect schema drift", f.details⟩ warnings

theorem run_detect (h : d.settings.enabled = true) (now : Moment) : d.detect v now r =
    match d.buildReport v now { r with warnings := [] } with
    | (.error f, u) => (.ok (failed f u.warnings), { u with state := .idle })
    | (.ok (report, live), u) =>
      match d.writeReport report u with
      | (.error f, w) => (.ok (failed f w.warnings), { w with state := .idle })
      | (.ok p, w) => d.finish v live report p { w with state := .idle } := by
  unfold detect
  simp only [h, Bool.not_true, Bool.false_eq_true, if_false]
  rw [run_bind, run_modify]
  dsimp only
  rw [run_bind, run_attempt]
  simp only [run_bind]
  cases d.buildReport v now { r with warnings := [] } with
  | mk x u =>
    cases x with
    | error f => rfl
    | ok a =>
      obtain ⟨report, live⟩ := a
      dsimp only
      cases d.writeReport report u with
      | mk y w => cases y <;> rfl

theorem run_detect_disabled (h : d.settings.enabled = false) (now : Moment) :
    d.detect v now r = (.ok (disabledOutcome now), r) := by
  unfold detect
  rw [h]
  rfl

/-! ## Whole runs -/

variable {now : Moment} {live : Snapshot} {report : Report} {w : FileTree} {p : Path}

/-- What a run tells, in order. -/
def told (d : Detector) (v : Services σ) (now : Moment) (r : DetectorRun σ) : List DetectorEvent :=
  (d.detect v now r).2.events.drop r.events.length

/-- A run that writes its report at `p`: `w` are the files then, and what is told and done after it is in order. -/
structure Writes (d : Detector) (v : Services σ) (now : Moment) (r : DetectorRun σ) (live : Snapshot)
    (report : Report) (w : FileTree) (p : Path) : Prop where
  enabled : d.settings.enabled = true
  built : (d.buildReport v now { r with warnings := [] }).1 = .ok (report, live)
  written : d.archive.write report (d.buildReport v now { r with warnings := [] }).2.tree = (w, .ok p)
  returned : ∀ o, (d.detect v now r).1 = .ok o → o.result = .ok report
  told : ∃ l m, d.told v now r = announcement report p ++ l ++ m ∧
    (∀ e ∈ m, ∃ url error, e = .notificationFailed url error) ∧ Fixes d live report w (d.detect v now r).2.tree l

/-- A run that ends without a report: it is off, or it fails on the way. -/
structure Quiet (d : Detector) (v : Services σ) (now : Moment) (r : DetectorRun σ) : Prop where
  told : d.told v now r = []
  returned : ∀ o report, (d.detect v now r).1 = .ok o → o.result = .ok report → report.drifts = []
  tree : ∃ t, (t = r.tree ∨ t = (d.buildReport v now { r with warnings := [] }).2.tree) ∧
    AddsDirectories t (d.detect v now r).2.tree

theorem told_eq {l : List DetectorEvent} (h : (d.detect v now r).2.events = r.events ++ l) : d.told v now r = l := by
  rw [told, h, List.drop_left]

theorem events_buildReport (d : Detector) (v : Services σ) (now : Moment) (r : DetectorRun σ) :
    (d.buildReport v now { r with warnings := [] }).2.events = r.events :=
  (keeps_buildReport (R := fun _ _ => True) (fun _ => trivial) (fun _ _ _ _ _ => trivial) (fun _ _ _ _ => trivial)
    now { r with warnings := [] }).2

/-- A run that writes its report comes to the finish with what was found out and said until then. -/
theorem finish_of_written (henabled : d.settings.enabled = true)
    (hbuilt : (d.buildReport v now { r with warnings := [] }).1 = .ok (report, live))
    (hwritten : d.archive.write report (d.buildReport v now { r with warnings := [] }).2.tree = (w, .ok p)) :
    ∃ u : DetectorRun σ, d.detect v now r = d.finish v live report p u ∧ u.tree = w ∧ u.events = r.events ∧
      u.outside = (d.buildReport v now { r with warnings := [] }).2.outside ∧
      u.warnings = (d.buildReport v now { r with warnings := [] }).2.warnings := by
  have hrun := run_detect (d := d) (v := v) (r := r) henabled now
  have hevents := events_buildReport d v now r
  cases hx : d.buildReport v now { r with warnings := [] } with
  | mk x u =>
    rw [hx] at hrun hbuilt hevents hwritten
    obtain rfl : x = .ok (report, live) := hbuilt
    have hwritten : d.archive.write report u.tree = (w, .ok p) := hwritten
    obtain ⟨hresult, htree, he⟩ := run_writeReport (d := d) report u
    rw [hwritten] at hresult htree
    have houtside : (d.writeReport report u).2.outside = u.outside := rfl
    have hwarnings : (d.writeReport report u).2.warnings = u.warnings := rfl
    dsimp only at hrun
    cases hy : d.writeReport report u with
    | mk y z =>
      rw [hy] at hrun hresult htree he houtside hwarnings
      obtain rfl : y = .ok p := hresult
      exact ⟨{ z with state := .idle }, hrun, htree, he.trans hevents, houtside, hwarnings⟩

theorem writes_of (henabled : d.settings.enabled = true)
    (hbuilt : (d.buildReport v now { r with warnings := [] }).1 = .ok (report, live))
    (hwritten : d.archive.write report (d.buildReport v now { r with warnings := [] }).2.tree = (w, .ok p)) :
    d.Writes v now r live report w p := by
  obtain ⟨u, hrun, htree, hevents, -, -⟩ := finish_of_written henabled hbuilt hwritten
  obtain ⟨hreturn, l, m, htold, hfailed, hfix⟩ := finish_spec (d := d) (v := v) live report p u
  rw [← hrun] at hreturn htold hfix
  rw [htree] at hfix
  rw [hevents] at htold
  exact ⟨henabled, hbuilt, hwritten, hreturn, l, m, told_eq htold, hfailed, hfix⟩

/-- A run that is on writes its report, or fails before with at most new directories left behind. -/
theorem writes_or_failed (henabled : d.settings.enabled = true) (v : Services σ) (now : Moment) (r : DetectorRun σ) :
    (∃ live report w p, d.Writes v now r live report w p) ∨
      ∃ f, ∃ u : DetectorRun σ, d.detect v now r = (.ok (failed f u.warnings), { u with state := .idle }) ∧
        u.events = r.events ∧ AddsDirectories (d.buildReport v now { r with warnings := [] }).2.tree u.tree := by
  have hrun := run_detect (v := v) (r := r) henabled now
  have hevents := events_buildReport d v now r
  cases hx : d.buildReport v now { r with warnings := [] } with
  | mk x u =>
    rw [hx] at hrun hevents
    cases x with
    | error f => exact .inr ⟨f, u, hrun, hevents, .refl _ _ _⟩
    | ok a =>
      obtain ⟨report, live⟩ := a
      cases hw : d.archive.write report u.tree with
      | mk w result =>
        cases result with
        | ok p => exact .inl ⟨live, report, w, p, writes_of henabled (by rw [hx]) (by rw [hx]; exact hw)⟩
        | error f =>
          obtain ⟨hresult, ht, he⟩ := run_writeReport (d := d) report u
          rw [hw] at hresult ht
          dsimp only at hrun
          cases hy : d.writeReport report u with
          | mk y z =>
            rw [hy] at hresult ht he hrun
            cases hresult
            have hadds : AddsDirectories u.tree z.tree := by
              rw [show z.tree = w from ht]
              exact ReportArchive.write_error hw
            exact .inr ⟨_, z, hrun, he.trans hevents, hadds⟩

theorem writes_or_quiet (d : Detector) (v : Services σ) (now : Moment) (r : DetectorRun σ) :
    (∃ live report w p, d.Writes v now r live report w p) ∨ d.Quiet v now r := by
  have hquiet : (d.detect v now r).2.events = r.events → d.told v now r = [] := fun h =>
    told_eq (h.trans (List.append_nil _).symm)
  cases henabled : d.settings.enabled with
  | false =>
    have hrun := run_detect_disabled (v := v) (r := r) henabled now
    refine .inr ⟨hquiet (by rw [hrun]), fun o report ho hreport => ?_, r.tree, .inl rfl, ?_⟩
    · rw [hrun] at ho
      cases ho
      cases hreport
      rfl
    · rw [hrun]
      exact .refl _ _ _
  | true =>
    refine (writes_or_failed henabled v now r).imp_right ?_
    rintro ⟨f, u, hu, he, ht⟩
    refine ⟨hquiet (by rw [hu]; exact he), fun o report ho hreport => ?_, _, .inr rfl, by rw [hu]; exact ht⟩
    rw [hu] at ho
    cases ho
    cases hreport

theorem writes_of_ok (henabled : d.settings.enabled = true) {o : Outcome Report} (ho : (d.detect v now r).1 = .ok o)
    (hreport : o.result = .ok report) : ∃ live w p, d.Writes v now r live report w p := by
  rcases writes_or_failed henabled v now r with ⟨live, report', w, p, h⟩ | ⟨f, u, hu, -, -⟩
  · cases (h.returned o ho).symm.trans hreport
    exact ⟨live, w, p, h⟩
  · rw [hu] at ho
    cases ho
    cases hreport

end Detector

end SchemaConcord
