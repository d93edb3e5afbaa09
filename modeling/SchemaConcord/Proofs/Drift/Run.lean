import SchemaConcord.Drift.Detector

/-!
# Parts of a detection

How the parts of a run compose, and what each of them does up to the report: only the check of routes touches files,
and nothing is told. A run that comes to its report has the live schema from the analyzer and the baseline from its
file (`buildReport_ok`).
-/

namespace SchemaConcord

def DetectorRun.events {σ : Type} (r : DetectorRun σ) : List DetectorEvent :=
  r.trace.filterMap fun
    | (_, .emit e) => some e
    | _ => none

theorem mapError_eq_ok {ε ε' α : Type} {wrap : ε → ε'} {x : Except ε α} {a : α} :
    x.mapError wrap = .ok a ↔ x = .ok a := by
  cases x with
  | error e => exact ⟨fun h => (nomatch h), fun h => (nomatch h)⟩
  | ok b =>
    constructor <;>
      · intro h
        cases h
        rfl

theorem run_bind {ε τ α β : Type} (part : ExceptT ε (StateM τ) α) (next : α → ExceptT ε (StateM τ) β) (r : τ) :
    (part >>= next) r = match part r with
      | (.ok a, r) => next a r
      | (.error e, r) => (.error e, r) := by
  have hrun : (part >>= next) r = ExceptT.bindCont next (part r).1 (part r).2 := rfl
  rw [hrun]
  cases part r with
  | mk x r' => cases x <;> rfl

namespace Detecting

variable {σ ε ε' α β : Type} {r r' : DetectorRun σ}

theorem run_bind_ok {part : Detecting σ ε α} {next : α → Detecting σ ε β} {b : β}
    (h : (part >>= next) r = (.ok b, r')) : ∃ a u, part r = (.ok a, u) ∧ next a u = (.ok b, r') := by
  rw [run_bind] at h
  split at h
  · next a u hp => exact ⟨a, u, hp, h⟩
  · cases h

theorem run_bind_of_ok {part : Detecting σ ε α} {a : α} (h : (part r).1 = .ok a) (next : α → Detecting σ ε β) :
    (part >>= next) r = next a (part r).2 := by
  rw [run_bind]
  cases hp : part r with
  | mk x u =>
    rw [hp] at h
    cases h
    rfl

theorem run_pure (a : α) (r : DetectorRun σ) : (pure a : Detecting σ ε α) r = (.ok a, r) := rfl

theorem run_modify (f : DetectorRun σ → DetectorRun σ) (r : DetectorRun σ) :
    (modify f : Detecting σ ε PUnit) r = (.ok (), f r) := rfl

theorem run_enter (s : DetectorState) (r : DetectorRun σ) :
    (enter s : Detecting σ ε Unit) r = (.ok (), { r with state := s }) := rfl

theorem run_note (a : DetectorAction) (r : DetectorRun σ) :
    (note a : Detecting σ ε Unit) r = (.ok (), { r with trace := r.trace ++ [(r.state, a)] }) := rfl

theorem run_ask (service : σ → σ × α) (r : DetectorRun σ) :
    (ask service : Detecting σ ε α) r = (.ok (service r.outside).2, { r with outside := (service r.outside).1 }) := rfl

theorem run_onFiles (work : FileTree → FileTree × α) (r : DetectorRun σ) :
    (onFiles work : Detecting σ ε α) r = (.ok (work r.tree).2, { r with tree := (work r.tree).1 }) := rfl

theorem run_settle (wrap : ε → ε') (result : Except ε α) (r : DetectorRun σ) :
    (settle wrap result : Detecting σ ε' α) r = (result.mapError wrap, r) := rfl

theorem run_adapt (wrap : ε → ε') (part : Detecting σ ε α) (r : DetectorRun σ) :
    (part.adapt wrap : Detecting σ ε' α) r = ((part r).1.mapError wrap, (part r).2) := rfl

theorem run_attempt (part : Detecting σ ε α) (r : DetectorRun σ) :
    (attempt part : Detecting σ ε' (Except ε α)) r = (.ok (part r).1, { (part r).2 with state := .idle }) := rfl

/-! ## What a part does to the files -/

/-- A part relates the files before and after it by `R`, and tells nothing. -/
def Keeps (R : FileTree → FileTree → Prop) (part : Detecting σ ε α) : Prop :=
  ∀ r, R r.tree (part r).2.tree ∧ (part r).2.events = r.events

abbrev Steady (part : Detecting σ ε α) : Prop := Keeps (fun t t' => t' = t) part

namespace Keeps

variable {R : FileTree → FileTree → Prop}

theorem of_steady {part : Detecting σ ε α} (hrefl : ∀ t, R t t) (h : Steady part) : Keeps R part := by
  intro r
  obtain ⟨ht, he⟩ := h r
  exact ⟨ht ▸ hrefl r.tree, he⟩

theorem bind (htrans : ∀ t u v, R t u → R u v → R t v) {part : Detecting σ ε α} {next : α → Detecting σ ε β}
    (hp : Keeps R part) (hn : ∀ a, Keeps R (next a)) : Keeps R (part >>= next) := by
  intro r
  obtain ⟨ht, he⟩ := hp r
  rw [run_bind]
  cases hx : part r with
  | mk x u =>
    rw [hx] at ht he
    cases x with
    | error e => exact ⟨ht, he⟩
    | ok a =>
      obtain ⟨ht', he'⟩ := hn a u
      exact ⟨htrans _ _ _ ht ht', he'.trans he⟩

end Keeps

namespace Steady

theorem bind {part : Detecting σ ε α} {next : α → Detecting σ ε β} (hp : Steady part) (hn : ∀ a, Steady (next a)) :
    Steady (part >>= next) :=
  Keeps.bind (fun _ _ _ h h' => h'.trans h) hp hn

theorem pure (a : α) : Steady (Pure.pure a : Detecting σ ε α) := fun _ => ⟨rfl, rfl⟩

theorem enter (s : DetectorState) : Steady (enter s : Detecting σ ε Unit) := fun _ => ⟨rfl, rfl⟩

theorem warn (l : List String) : Steady (warn l : Detecting σ ε Unit) := fun _ => ⟨rfl, rfl⟩

theorem ask (service : σ → σ × α) : Steady (ask service : Detecting σ ε α) := fun _ => ⟨rfl, rfl⟩

theorem settle (wrap : ε → ε') (result : Except ε α) : Steady (settle wrap result : Detecting σ ε' α) :=
  fun _ => ⟨rfl, rfl⟩

theorem look (f : FileTree → α) : Steady (onFiles fun t => (t, f t) : Detecting σ ε α) := fun _ => ⟨rfl, rfl⟩

theorem note {a : DetectorAction} (h : ∀ e, a ≠ .emit e) : Steady (note a : Detecting σ ε Unit) := by
  intro r
  refine ⟨rfl, ?_⟩
  show (r.trace ++ [(r.state, a)]).filterMap _ = _
  rw [List.filterMap_append]
  cases a with
  | emit e => exact absurd rfl (h e)
  | _ => exact List.append_nil _

theorem adapt {part : Detecting σ ε α} (wrap : ε → ε') (h : Steady part) :
    Steady (part.adapt wrap : Detecting σ ε' α) := by
  intro r
  have hrun : ((part.adapt wrap : Detecting σ ε' α) r).2 = (part r).2 := rfl
  rw [hrun]
  exact h r

end Steady

end Detecting

namespace Detector

open Detecting

variable {σ ε : Type} {d : Detector} {v : Services σ} {r r' : DetectorRun σ}

/-! ## Schemas -/

theorem steady_analyze : Steady (analyze v) := by
  unfold analyze
  refine .bind (.enter _) fun _ => .bind (.note ?_) fun _ => .bind (.ask _) fun _ => .settle _ _
  simp

theorem result_analyze : (analyze v r).1 = (v.analyze r.outside).2.mapError .analysis := rfl

theorem steady_loadBaseline (now : Moment) : Steady (d.loadBaseline now : Detecting σ _ _) := by
  unfold loadBaseline
  refine .bind (.enter _) fun _ => .bind (.note ?_) fun _ => .bind (.look _) fun x => .bind (.settle _ x)
    fun found => ?_
  · simp
  · dsimp only
    split
    · exact .bind (.warn _) fun _ => .pure _
    · exact .pure _

theorem result_loadBaseline (now : Moment) :
    (d.loadBaseline now r).1 = (d.baseline.load now r.tree).mapError .baseline := by
  unfold loadBaseline
  simp only [run_bind, run_enter, run_note, run_onFiles, run_settle]
  cases d.baseline.load now r.tree with
  | error f => rfl
  | ok found =>
    cases found with
    | none => rfl
    | some b => rfl

theorem run_analyze {live : Snapshot} (h : (v.analyze r.outside).2 = .ok live) : analyze v r = (.ok live, { r with
    outside := (v.analyze r.outside).1, state := .analyzing, trace := r.trace ++ [(.analyzing, .analyze)] }) := by
  unfold analyze
  simp only [run_bind, run_enter, run_note, run_ask, run_settle, h]
  rfl

theorem run_loadBaseline {now : Moment} {b : Snapshot} (h : d.baseline.load now r.tree = .ok (some b)) :
    d.loadBaseline now r = (.ok (some b), { r with
      state := .diffing, trace := r.trace ++ [(.diffing, .loadBaseline)] }) := by
  unfold loadBaseline
  simp only [run_bind, run_enter, run_note, run_onFiles, run_settle, h]
  rfl

theorem outside_loadBaseline (now : Moment) (r : DetectorRun σ) :
    (d.loadBaseline now r).2.outside = r.outside := by
  unfold loadBaseline
  simp only [run_bind, run_enter, run_note, run_onFiles, run_settle]
  cases d.baseline.load now r.tree with
  | error f => rfl
  | ok found => cases found <;> rfl

/-- Whether the migration log, asked in a state outside, tells of a completed migration between two versions. -/
def recorded (d : Detector) (v : Services σ) (before after : String) (s : σ) : Except MigrationLog.CountFault Bool :=
  match v.history, MigrationLog.countSql d.settings.migrationTable with
  | some query, .ok sql =>
    match (query sql (.record [("from_version", .text before), ("to_version", .text after)]) s).2 with
    | .ok rows => MigrationLog.tellsOfSome rows
    | .error _ => .ok false
  | _, _ => .ok false

/-- No answer about the migration log tells of a completed migration. -/
def NoMigration (v : Services σ) : Prop :=
  ∀ query, v.history = some query → ∀ sql parameters s rows, (query sql parameters s).2 = .ok rows →
    MigrationLog.tellsOfSome rows = .ok false

theorem recorded_of_noMigration (hv : NoMigration v) (before after : String) (s : σ) :
    d.recorded v before after s = .ok false := by
  unfold recorded
  split
  · next query sql hquery _ =>
    split
    · next rows hrows => exact hv query hquery _ _ _ rows hrows
    · rfl
  · rfl

theorem steady_hasMigration (before after : String) : Steady (d.hasMigration v before after) := by
  unfold hasMigration
  split
  · refine .bind (.note (by simp)) fun _ => .bind (.ask _) fun x => ?_
    split
    · exact .settle _ _
    · exact .pure _
  · exact .pure _

theorem result_hasMigration (before after : String) :
    (d.hasMigration v before after r).1 = d.recorded v before after r.outside := by
  unfold hasMigration recorded
  cases v.history with
  | none => rfl
  | some query =>
    cases MigrationLog.countSql d.settings.migrationTable with
    | error f => rfl
    | ok sql =>
      simp only [run_bind, run_note, run_ask]
      cases (query sql (.record [("from_version", .text before), ("to_version", .text after)]) r.outside).2 with
      | error f => rfl
      | ok rows =>
        simp only [run_settle]
        cases MigrationLog.tellsOfSome rows <;> rfl

theorem steady_unrecordedChange (b live : Snapshot) : Steady (d.unrecordedChange v b live) := by
  unfold unrecordedChange
  split
  · exact .pure _
  · exact .bind (.adapt _ (steady_hasMigration _ _)) fun _ => .pure _

theorem steady_schemaDrifts (live : Snapshot) (baseline : Option Snapshot) :
    Steady (d.schemaDrifts v live baseline) := by
  unfold schemaDrifts
  cases baseline with
  | none => exact .pure _
  | some b => exact .bind (steady_unrecordedChange b live) fun _ => .pure _

/-- The drifts of a live schema when no migration is recorded. -/
def expectedDrifts (live : Snapshot) : Option Snapshot → List Drift
  | none => []
  | some b => b.compare live ++ if b.fingerprint = live.fingerprint then [] else [b.unrecordedDrift live]

theorem run_schemaDrifts_of_same {live b : Snapshot} (h : b.fingerprint = live.fingerprint) :
    d.schemaDrifts v live (some b) r = (.ok (b.compare live), r) := by
  unfold schemaDrifts unrecordedChange
  simp only [if_pos h, run_bind, run_pure, List.append_nil]

theorem result_schemaDrifts_of_ne {live b : Snapshot} (h : b.fingerprint ≠ live.fingerprint) :
    (d.schemaDrifts v live (some b) r).1 = ((d.recorded v b.version live.version r.outside).mapError .history).map
      fun found => b.compare live ++ if found then [] else [b.unrecordedDrift live] := by
  have hadapt := run_adapt DetectionFault.history (d.hasMigration v b.version live.version) r
  rw [result_hasMigration] at hadapt
  unfold schemaDrifts unrecordedChange
  simp only [if_neg h]
  rw [run_bind, run_bind, hadapt]
  cases d.recorded v b.version live.version r.outside <;> rfl

theorem result_schemaDrifts (hv : NoMigration v) (live : Snapshot) (baseline : Option Snapshot) :
    (d.schemaDrifts v live baseline r).1 = .ok (expectedDrifts live baseline) := by
  cases baseline with
  | none => rfl
  | some b =>
    unfold expectedDrifts
    by_cases h : b.fingerprint = live.fingerprint
    · rw [run_schemaDrifts_of_same h]
      simp only [if_pos h, List.append_nil]
    · rw [result_schemaDrifts_of_ne h, recorded_of_noMigration hv]
      simp only [if_neg h]
      rfl

/-- A recorded migration can only take a drift away. -/
theorem schemaDrifts_subset {live : Snapshot} {baseline : Option Snapshot} {l : List Drift}
    (h : (d.schemaDrifts v live baseline r).1 = .ok l) : ∀ x ∈ l, x ∈ expectedDrifts live baseline := by
  cases baseline with
  | none =>
    cases h
    exact fun _ => id
  | some b =>
    obtain ⟨r', hr⟩ : ∃ r', d.schemaDrifts v live (some b) r = (.ok l, r') := ⟨_, Prod.ext h rfl⟩
    unfold schemaDrifts at hr
    obtain ⟨unrecorded, u, hu, hr⟩ := run_bind_ok hr
    cases hr
    unfold unrecordedChange at hu
    unfold expectedDrifts
    by_cases heq : b.fingerprint = live.fingerprint
    · rw [if_pos heq] at hu
      cases hu
      simp only [if_pos heq]
      exact fun _ => id
    · rw [if_neg heq] at hu
      obtain ⟨recorded, w, _, hu⟩ := run_bind_ok hu
      cases hu
      simp only [if_neg heq]
      cases recorded with
      | true => exact fun x hx => List.mem_append_left _ (by simpa using hx)
      | false => exact fun x hx => hx

/-! ## Routes and forms -/

theorem steady_checkedDrifts {α : Type} (subject : String) (drifts : α → List Drift) (o : Outcome α) :
    Steady (checkedDrifts subject drifts o : Detecting σ ε _) := by
  unfold checkedDrifts
  refine .bind (.warn _) fun _ => ?_
  split
  · exact .pure _
  · exact .bind (.warn _) fun _ => .pure _

theorem steady_formDrifts (live : Snapshot) : Steady (d.formDrifts live : Detecting σ ε _) := by
  unfold formDrifts
  split
  · exact .pure _
  · split
    · exact .bind (.note (by simp)) fun _ => .bind (.look _) fun _ => steady_checkedDrifts _ _ _
    · exact .pure _

theorem keeps_routeDrifts {R : FileTree → FileTree → Prop} (hrefl : ∀ t, R t t)
    (htrans : ∀ t u v, R t u → R u v → R t v)
    (hroutes : ∀ project, d.routes = some project → ∀ live t, R t (project.validate live t).1) (live : Snapshot) :
    Keeps R (d.routeDrifts live : Detecting σ ε _) := by
  unfold routeDrifts
  split
  · exact .of_steady hrefl (.pure _)
  · next project hproject =>
    split
    · have hnote : Steady (note .validateRoutes : Detecting σ ε Unit) := .note (by simp)
      have hcheck : Keeps R (onFiles (project.validate live) : Detecting σ ε _) :=
        fun r => ⟨hroutes project hproject live r.tree, rfl⟩
      exact .bind htrans (.of_steady hrefl hnote) fun _ => .bind htrans hcheck fun o =>
        .of_steady hrefl (steady_checkedDrifts _ _ o)
    · exact .of_steady hrefl (.pure _)

/-! ## Reports -/

theorem keeps_buildReport {R : FileTree → FileTree → Prop} (hrefl : ∀ t, R t t)
    (htrans : ∀ t u v, R t u → R u v → R t v)
    (hroutes : ∀ project, d.routes = some project → ∀ live t, R t (project.validate live t).1) (now : Moment) :
    Keeps R (d.buildReport v now) := by
  have hfrom : ∀ {β : Type} {part : Detecting σ DetectionFault β}, Steady part → Keeps R part := .of_steady hrefl
  unfold buildReport
  refine .bind htrans (hfrom steady_analyze) fun live => ?_
  refine .bind htrans (hfrom (steady_loadBaseline now)) fun baseline => ?_
  refine .bind htrans (hfrom (steady_schemaDrifts live baseline)) fun ofSchema => ?_
  refine .bind htrans (hfrom (.enter _)) fun _ => ?_
  refine .bind htrans (keeps_routeDrifts hrefl htrans hroutes live) fun ofRoutes => ?_
  exact .bind htrans (hfrom (steady_formDrifts live)) fun ofForms => hfrom (.pure _)

theorem buildReport_ok {now : Moment} {report : Report} {live : Snapshot}
    (h : (d.buildReport v now r).1 = .ok (report, live)) : (v.analyze r.outside).2 = .ok live ∧
      ∃ baseline ofSchema ofRoutes ofForms, d.baseline.load now r.tree = .ok baseline ∧
        (∃ u, (d.schemaDrifts v live baseline u).1 = .ok ofSchema) ∧ (d.routes = none → ofRoutes = []) ∧
        (d.forms = none → ofForms = []) ∧ report.drifts = d.settings.keep (ofSchema ++ ofRoutes ++ ofForms) ∧
        (∃ u : DetectorRun σ, (d.routeDrifts live u : Except DetectionFault _ × _).1 = .ok ofRoutes) ∧
        ∃ u : DetectorRun σ, (d.formDrifts live u : Except DetectionFault _ × _).1 = .ok ofForms := by
  obtain ⟨r', hr⟩ : ∃ r', d.buildReport v now r = (.ok (report, live), r') := ⟨_, Prod.ext h rfl⟩
  unfold buildReport at hr
  obtain ⟨live', r₁, h₁, hr⟩ := run_bind_ok hr
  obtain ⟨baseline, r₂, h₂, hr⟩ := run_bind_ok hr
  obtain ⟨ofSchema, r₃, h₃, hr⟩ := run_bind_ok hr
  obtain ⟨_, r₄, _, hr⟩ := run_bind_ok hr
  obtain ⟨ofRoutes, r₅, h₅, hr⟩ := run_bind_ok hr
  obtain ⟨ofForms, r₆, h₆, hr⟩ := run_bind_ok hr
  cases hr
  have hlive := result_analyze (v := v) (r := r)
  have hbaseline := result_loadBaseline (d := d) (r := r₁) now
  have htree := (steady_analyze (v := v) r).1
  rw [h₁] at hlive htree
  rw [h₂, htree] at hbaseline
  refine ⟨mapError_eq_ok.mp hlive.symm, baseline, ofSchema, ofRoutes, ofForms, mapError_eq_ok.mp hbaseline.symm,
    ⟨r₂, by rw [h₃]⟩, fun hroutes => ?_, fun hforms => ?_, rfl, ⟨r₄, by rw [h₅]⟩, r₅, by rw [h₆]⟩
  · rw [routeDrifts, hroutes] at h₅
    cases h₅
    rfl
  · rw [formDrifts, hforms] at h₆
    cases h₆
    rfl

/-- Without routes and forms a report comes about whenever analyzer, baseline and migration log answer. -/
theorem result_buildReport_of (hroutes : d.routes = none) (hforms : d.forms = none) {now : Moment} {live : Snapshot}
    {baseline : Option Snapshot} (hlive : (v.analyze r.outside).2 = .ok live)
    (hbaseline : d.baseline.load now r.tree = .ok baseline) (result : Except DetectionFault (List Drift))
    (hschema : ∀ u, u.outside = (v.analyze r.outside).1 → (d.schemaDrifts v live baseline u).1 = result) :
    (d.buildReport v now r).1 =
      result.map fun drifts => (reportOf now baseline live (d.settings.keep drifts), live) := by
  have h₁ : (analyze v r).1 = .ok live := by rw [run_analyze hlive]
  have h₂ : (d.loadBaseline now (analyze v r).2).1 = .ok baseline := by
    rw [result_loadBaseline, run_analyze hlive, hbaseline]
    rfl
  have houtside : (d.loadBaseline now (analyze v r).2).2.outside = (v.analyze r.outside).1 := by
    rw [outside_loadBaseline, run_analyze hlive]
  have h₃ := hschema _ houtside
  unfold buildReport routeDrifts formDrifts
  rw [run_bind_of_ok h₁, run_bind_of_ok h₂, run_bind, hroutes, hforms]
  cases hx : d.schemaDrifts v live baseline (d.loadBaseline now (analyze v r).2).2 with
  | mk x u =>
    rw [hx] at h₃
    cases h₃
    cases x with
    | error f => rfl
    | ok drifts =>
      simp only [run_bind, run_enter, run_pure, List.append_nil]
      rfl

theorem result_buildReport (hv : NoMigration v) (hroutes : d.routes = none) (hforms : d.forms = none) {now : Moment}
    {live : Snapshot} {baseline : Option Snapshot} (hlive : (v.analyze r.outside).2 = .ok live)
    (hbaseline : d.baseline.load now r.tree = .ok baseline) : (d.buildReport v now r).1 =
      .ok (reportOf now baseline live (d.settings.keep (expectedDrifts live baseline)), live) :=
  result_buildReport_of hroutes hforms hlive hbaseline _ fun _ _ => result_schemaDrifts hv live baseline

theorem run_writeReport (report : Report) (r : DetectorRun σ) : (d.writeReport report r).1 =
      (d.archive.write report r.tree).2.mapError .report ∧
    (d.writeReport report r).2.tree = (d.archive.write report r.tree).1 ∧
    (d.writeReport report r).2.events = r.events := by
  refine ⟨rfl, rfl, ?_⟩
  show (r.trace ++ [_]).filterMap _ = _
  rw [List.filterMap_append]
  exact List.append_nil _

end Detector

end SchemaConcord
