import Mathlib.Data.List.Induction
import SchemaConcord.Proofs.Drift.Run

/-!
# What a detector does in its states

Whatever a call does outside or to the files is one of its noted actions, and each kind of action has its state. A
detection analyzes, diffs, validates and reports in turn; fixing has a state of its own, and all that is told is told
when the detector is idle again. It is idle after every call, however the call ends (`Detector.idle_between`).
-/

namespace SchemaConcord

open Detecting

variable {σ ε ε' α β : Type}

/-! ## Actions -/

/-- The state that an action of a detection belongs to. -/
def DetectorAction.home : DetectorAction → DetectorState
  | .analyze => .analyzing
  | .loadBaseline | .askHistory .. => .diffing
  | .validateRoutes | .validateForms => .validating
  | .writeReport => .reporting
  | .saveBaseline => .fixing
  | .emit _ | .post _ => .idle

/-- The state that an action belongs to when the live schema is made the baseline. -/
def DetectorAction.savingHome : DetectorAction → DetectorState
  | .emit _ => .idle
  | _ => .analyzing

namespace Detector

/-- What an action does outside and to the files. -/
inductive Does (d : Detector) (v : Services σ) : DetectorAction → σ × FileTree → σ × FileTree → Prop
  | analyze (o : σ) (t : FileTree) : Does d v .analyze (o, t) ((v.analyze o).1, t)
  | loadBaseline (w : σ × FileTree) : Does d v .loadBaseline w w
  | askHistory (query : String → Datum → σ → σ × Except ConnectionFault (List Row)) (h : v.history = some query)
    (sql : String) (parameters : Datum) (o : σ) (t : FileTree) :
    Does d v (.askHistory sql parameters) (o, t) ((query sql parameters o).1, t)
  | validateRoutes (project : RouteProject) (h : d.routes = some project) (live : Snapshot) (o : σ) (t : FileTree) :
    Does d v .validateRoutes (o, t) (o, (project.validate live t).1)
  | validateForms (w : σ × FileTree) : Does d v .validateForms w w
  | writeReport (report : Report) (o : σ) (t : FileTree) :
    Does d v .writeReport (o, t) (o, (d.archive.write report t).1)
  | saveBaseline (live : Snapshot) (o : σ) (t : FileTree) :
    Does d v .saveBaseline (o, t) (o, (d.baseline.save live t).1)
  | emit (e : DetectorEvent) (w : σ × FileTree) : Does d v (.emit e) w w
  | post (a : WebAddress) (report : Report) (o : σ) (t : FileTree) :
    Does d v (.post report) (o, t) ((v.post a report.payload o).1, t)

/-- Actions one after the other, each in its state, and what they do from first to last. -/
inductive Trail (d : Detector) (v : Services σ) (home : DetectorAction → DetectorState) :
    List (DetectorState × DetectorAction) → σ × FileTree → σ × FileTree → Prop
  | nil (w : σ × FileTree) : Trail d v home [] w w
  | cons {a : DetectorAction} {l : List (DetectorState × DetectorAction)} {w u w' : σ × FileTree} :
    d.Does v a w u → Trail d v home l u w' → Trail d v home ((home a, a) :: l) w w'

variable {d : Detector} {v : Services σ} {home : DetectorAction → DetectorState}
  {l m : List (DetectorState × DetectorAction)} {w u w' : σ × FileTree}

theorem Trail.append (h : d.Trail v home l w u) (h' : d.Trail v home m u w') : d.Trail v home (l ++ m) w w' := by
  induction h with
  | nil => exact h'
  | cons ha _ ih => exact .cons ha (ih h')

theorem Trail.at_home (h : d.Trail v home l w w') : ∀ x ∈ l, x.1 = home x.2 := by
  induction h with
  | nil => simp
  | cons _ _ ih =>
    rintro x (_ | ⟨_, hx⟩)
    · rfl
    · exact ih x hx

/-- What the services keep outside is kept by whatever a call does. -/
theorem Trail.keeps {I : σ → Prop} (hanalyze : ∀ o, I o → I (v.analyze o).1)
    (hhistory : ∀ query, v.history = some query → ∀ sql parameters o, I o → I (query sql parameters o).1)
    (hpost : ∀ a body o, I o → I (v.post a body o).1) (h : d.Trail v home l w w') (hw : I w.1) : I w'.1 := by
  induction h with
  | nil => exact hw
  | cons ha _ ih =>
    apply ih
    cases ha with
    | analyze o t => exact hanalyze o hw
    | askHistory query hquery sql parameters o t => exact hhistory query hquery sql parameters o hw
    | post a report o t => exact hpost a _ o hw
    | loadBaseline | validateRoutes | validateForms | writeReport | saveBaseline | emit => exact hw

end Detector

/-! ## Parts of a run -/

def DetectorRun.world (r : DetectorRun σ) : σ × FileTree := (r.outside, r.tree)

/-- From state `s` a part does what it notes, each action in its state, and ends in state `s'`, or with a fault in a
state that meets `stop`. -/
def Orderly (d : Detector) (v : Services σ) (home : DetectorAction → DetectorState) (stop : DetectorState → Prop)
    (s s' : DetectorState) (part : Detecting σ ε α) : Prop :=
  ∀ r, r.state = s →
    (∃ l, (part r).2.trace = r.trace ++ l ∧ d.Trail v home l r.world (part r).2.world) ∧
      match (part r).1 with
      | .ok _ => (part r).2.state = s'
      | .error _ => stop (part r).2.state

namespace Orderly

variable {d : Detector} {v : Services σ} {home : DetectorAction → DetectorState} {stop : DetectorState → Prop}
  {s s' s'' : DetectorState}

/-- A part that does nothing but end well. -/
theorem of_quiet {part : Detecting σ ε α} (h : ∀ r, r.state = s → (∃ a, (part r).1 = .ok a) ∧
    (part r).2.trace = r.trace ∧ (part r).2.world = r.world ∧ (part r).2.state = s') :
    Orderly d v home stop s s' part := by
  intro r hr
  obtain ⟨⟨a, ha⟩, htrace, hworld, hstate⟩ := h r hr
  refine ⟨⟨[], ?_, ?_⟩, ?_⟩
  · rw [htrace, List.append_nil]
  · rw [hworld]
    exact .nil _
  · rw [ha]
    exact hstate

theorem pure (a : α) : Orderly d v home stop s s (Pure.pure a : Detecting σ ε α) :=
  of_quiet fun _ hr => ⟨⟨a, rfl⟩, rfl, rfl, hr⟩

theorem enter (s' : DetectorState) : Orderly d v home stop s s' (enter s' : Detecting σ ε Unit) :=
  of_quiet fun _ _ => ⟨⟨(), rfl⟩, rfl, rfl, rfl⟩

theorem warn (l : List String) : Orderly d v home stop s s (warn l : Detecting σ ε Unit) :=
  of_quiet fun _ hr => ⟨⟨(), rfl⟩, rfl, rfl, hr⟩

theorem get : Orderly d v home stop s s (MonadState.get : Detecting σ ε (DetectorRun σ)) :=
  of_quiet fun r hr => ⟨⟨r, rfl⟩, rfl, rfl, hr⟩

theorem settle (hstop : stop s) (wrap : ε → ε') (result : Except ε α) :
    Orderly d v home stop s s (settle wrap result : Detecting σ ε' α) := by
  intro r hr
  refine ⟨⟨[], (List.append_nil _).symm, .nil _⟩, ?_⟩
  rw [run_settle]
  cases result with
  | ok a => exact hr
  | error f => exact hr ▸ hstop

theorem throw (hstop : stop s) (f : ε) : Orderly d v home stop s s (throw f : Detecting σ ε α) :=
  settle hstop id (.error f)

theorem bind {part : Detecting σ ε α} {next : α → Detecting σ ε β} (hp : Orderly d v home stop s s' part)
    (hn : ∀ a, Orderly d v home stop s' s'' (next a)) : Orderly d v home stop s s'' (part >>= next) := by
  intro r hr
  obtain ⟨⟨l, hl, htrail⟩, hstate⟩ := hp r hr
  rw [run_bind]
  cases hx : part r with
  | mk x u =>
    rw [hx] at hl htrail hstate
    cases x with
    | error f => exact ⟨⟨l, hl, htrail⟩, hstate⟩
    | ok a =>
      obtain ⟨⟨m, hm, htrail'⟩, hstate'⟩ := hn a u hstate
      refine ⟨⟨l ++ m, ?_, htrail.append htrail'⟩, hstate'⟩
      rw [← List.append_assoc, ← hl]
      exact hm

/-- An action is noted in its state, and then done. -/
theorem act {a : DetectorAction} {work : Detecting σ ε α} {next : α → Detecting σ ε β} (ha : home a = s)
    (hwork : ∀ r, ∃ x o t, work r = (.ok x, { r with outside := o, tree := t }) ∧ d.Does v a r.world (o, t))
    (hn : ∀ x, Orderly d v home stop s s' (next x)) :
    Orderly d v home stop s s' (note a >>= fun _ => work >>= next) := by
  have hdone : Orderly d v home stop s s (note a >>= fun _ => work) := by
    intro r hr
    obtain ⟨x, o, t, hrun, hdoes⟩ := hwork { r with trace := r.trace ++ [(r.state, a)] }
    rw [run_bind, run_note]
    dsimp only
    rw [hrun]
    refine ⟨⟨[(home a, a)], ?_, .cons hdoes (.nil _)⟩, hr⟩
    rw [ha, ← hr]
  have hassoc : (note a >>= fun _ => work >>= next : Detecting σ ε β) = (note a >>= fun _ => work) >>= next := by
    rw [bind_assoc]
  rw [hassoc]
  exact hdone.bind hn

theorem ask {a : DetectorAction} {service : σ → σ × α} {next : α → Detecting σ ε β} (ha : home a = s)
    (hdoes : ∀ o t, d.Does v a (o, t) ((service o).1, t)) (hn : ∀ x, Orderly d v home stop s s' (next x)) :
    Orderly d v home stop s s' (note a >>= fun _ => Detecting.ask service >>= next) :=
  act ha (fun r => ⟨_, _, r.tree, run_ask service r, hdoes _ _⟩) hn

theorem onFiles {a : DetectorAction} {work : FileTree → FileTree × α} {next : α → Detecting σ ε β} (ha : home a = s)
    (hdoes : ∀ o t, d.Does v a (o, t) (o, (work t).1)) (hn : ∀ x, Orderly d v home stop s s' (next x)) :
    Orderly d v home stop s s' (note a >>= fun _ => Detecting.onFiles work >>= next) :=
  act ha (fun r => ⟨_, r.outside, _, run_onFiles work r, hdoes _ _⟩) hn

theorem emit (hidle : ∀ e, home (.emit e) = s) (e : DetectorEvent) :
    Orderly d v home stop s s (emit e : Detecting σ ε Unit) := by
  intro r hr
  refine ⟨⟨[(home (.emit e), .emit e)], ?_, .cons (.emit e _) (.nil _)⟩, hr⟩
  rw [Detecting.emit, run_note, hidle, ← hr]

theorem emitAll (hidle : ∀ e, home (.emit e) = s) (l : List Drift) :
    Orderly d v home stop s s (l.forM fun x => Detecting.emit (.driftFixed x) : Detecting σ ε Unit) := by
  induction l with
  | nil => exact .pure ()
  | cons x l ih => exact (emit hidle _).bind fun _ => ih

theorem adapt {part : Detecting σ ε α} (wrap : ε → ε') (h : Orderly d v home stop s s' part) :
    Orderly d v home stop s s' (part.adapt wrap : Detecting σ ε' α) := by
  intro r hr
  obtain ⟨htrail, hstate⟩ := h r hr
  rw [run_adapt]
  refine ⟨htrail, ?_⟩
  cases hx : (part r).1 with
  | ok a => rwa [hx] at hstate
  | error f => rwa [hx] at hstate

/-- However a part ends, after the attempt the detector is idle. -/
theorem attempt {part : Detecting σ ε α} (h : Orderly d v home (fun _ => True) s s' part) :
    Orderly d v home stop s .idle (attempt part : Detecting σ ε' (Except ε α)) := by
  intro r hr
  obtain ⟨htrail, -⟩ := h r hr
  exact ⟨htrail, rfl⟩

end Orderly

/-! ## The parts of a detector -/

namespace Detector

variable {d : Detector} {v : Services σ} {home : DetectorAction → DetectorState} {stop : DetectorState → Prop}
  {s : DetectorState}

theorem orderly_analyze (hhome : home .analyze = .analyzing) (hstop : stop .analyzing) :
    Orderly d v home stop s .analyzing (analyze v) := by
  unfold analyze
  apply (Orderly.enter _).bind
  intro _
  exact .ask hhome .analyze fun result => .settle hstop _ result

theorem orderly_loadBaseline (now : Moment) :
    Orderly d v DetectorAction.home (fun _ => True) s .diffing (d.loadBaseline now) := by
  unfold loadBaseline
  apply (Orderly.enter _).bind
  intro _
  refine .onFiles rfl (fun o t => .loadBaseline (o, t)) fun result => ?_
  apply (Orderly.settle trivial _ result).bind
  intro found
  dsimp only
  split
  · exact (Orderly.warn _).bind fun _ => .pure _
  · exact .pure _

theorem orderly_hasMigration (before after : String) :
    Orderly d v DetectorAction.home (fun _ => True) .diffing .diffing (d.hasMigration v before after) := by
  unfold hasMigration
  split
  · next query sql hquery _ =>
    refine .ask rfl (.askHistory query hquery sql _) fun answer => ?_
    cases answer with
    | ok rows => exact .settle trivial _ _
    | error f => exact .pure _
  · exact .pure _

theorem orderly_schemaDrifts (live : Snapshot) (baseline : Option Snapshot) :
    Orderly d v DetectorAction.home (fun _ => True) .diffing .diffing (d.schemaDrifts v live baseline) := by
  cases baseline with
  | none => exact .pure _
  | some b =>
    have hchange : Orderly d v DetectorAction.home (fun _ => True) .diffing .diffing (d.unrecordedChange v b live) := by
      unfold unrecordedChange
      split
      · exact .pure _
      · exact (Orderly.adapt _ (orderly_hasMigration _ _)).bind fun _ => .pure _
    exact hchange.bind fun _ => .pure _

theorem orderly_checkedDrifts (subject : String) (drifts : α → List Drift) (o : Outcome α) :
    Orderly d v home stop s s (checkedDrifts subject drifts o : Detecting σ ε _) := by
  unfold checkedDrifts
  apply (Orderly.warn _).bind
  intro _
  split
  · exact .pure _
  · exact (Orderly.warn _).bind fun _ => .pure _

theorem orderly_routeDrifts (live : Snapshot) :
    Orderly d v DetectorAction.home stop .validating .validating (d.routeDrifts live : Detecting σ ε _) := by
  unfold routeDrifts
  split
  · exact .pure _
  · next project hproject =>
    split
    · exact .onFiles rfl (.validateRoutes project hproject live) fun _ => orderly_checkedDrifts _ _ _
    · exact .pure _

theorem orderly_formDrifts (live : Snapshot) :
    Orderly d v DetectorAction.home stop .validating .validating (d.formDrifts live : Detecting σ ε _) := by
  unfold formDrifts
  split
  · exact .pure _
  · split
    · exact .onFiles rfl (fun o t => .validateForms (o, t)) fun _ => orderly_checkedDrifts _ _ _
    · exact .pure _

theorem orderly_buildReport (now : Moment) :
    Orderly d v DetectorAction.home (fun _ => True) s .validating (d.buildReport v now) := by
  unfold buildReport
  apply (orderly_analyze rfl trivial).bind
  intro live
  apply (orderly_loadBaseline now).bind
  intro baseline
  apply (orderly_schemaDrifts live baseline).bind
  intro ofSchema
  apply (Orderly.enter _).bind
  intro _
  apply (orderly_routeDrifts live).bind
  intro ofRoutes
  exact (orderly_formDrifts live).bind fun _ => .pure _

theorem orderly_writeReport (report : Report) :
    Orderly d v DetectorAction.home (fun _ => True) s .reporting (d.writeReport report) := by
  unfold writeReport
  apply (Orderly.enter _).bind
  intro _
  exact .onFiles rfl (.writeReport report) fun result => .settle trivial _ result

theorem orderly_replaceBaseline (hhome : home .saveBaseline = s) (live : Snapshot) :
    Orderly d v home (fun _ => True) s s (d.replaceBaseline live) := by
  unfold replaceBaseline
  exact .onFiles hhome (.saveBaseline live) fun result => .settle trivial _ result

/-! ## After the report -/

theorem orderly_fix (live : Snapshot) (report : Report) :
    Orderly d v DetectorAction.home (Eq .idle) .idle .idle (d.fix live report) := by
  unfold fix
  dsimp only
  split
  · exact .pure _
  · have hsave : Orderly d v DetectorAction.home (fun _ => True) .idle .fixing (do
        enter .fixing
        d.replaceBaseline live) := (Orderly.enter _).bind fun _ => orderly_replaceBaseline rfl live
    apply hsave.attempt.bind
    intro result
    cases result with
    | ok _ =>
      apply (Orderly.emitAll (fun _ => rfl) _).bind
      intro _
      exact (Orderly.emit (fun _ => rfl) _).bind fun _ => .pure _
    | error f =>
      cases f with
      | file f => exact (Orderly.warn _).bind fun _ => .pure _
      | namelessPath p => exact .throw rfl _

theorem orderly_fixing (live : Snapshot) (report : Report) {next : Nat → Detecting σ DetectorFault α}
    (hn : ∀ n, Orderly d v DetectorAction.home (Eq .idle) .idle .idle (next n)) :
    Orderly d v DetectorAction.home (Eq .idle) .idle .idle
      (if d.settings.autoFix = true then d.fix live report >>= next else pure 0 >>= next) := by
  split
  · exact (orderly_fix live report).bind hn
  · exact (Orderly.pure 0).bind hn

theorem orderly_tell (url : String) (report : Report) :
    Orderly d v DetectorAction.home (Eq .idle) .idle .idle (tell v url report) := by
  unfold tell
  apply (Orderly.settle rfl _ _).bind
  intro a
  refine .ask rfl (.post a report) fun reply => ?_
  apply (Orderly.settle rfl _ _).bind
  intro delivery
  split
  · exact .pure _
  · apply (Orderly.warn _).bind
    intro _
    exact .emit (fun _ => rfl) _

/-! ## Calls -/

theorem orderly_detect (now : Moment) :
    Orderly d v DetectorAction.home (Eq .idle) .idle .idle (d.detect v now) := by
  have hreport : Orderly d v DetectorAction.home (fun _ => True) .idle .reporting (do
      let a ← d.buildReport v now
      return (a.1, a.2, ← d.writeReport a.1)) :=
    (orderly_buildReport now).bind fun a => (orderly_writeReport a.1).bind fun _ => .pure _
  unfold detect
  dsimp only
  split
  · exact .pure _
  have hclear : Orderly d v DetectorAction.home (Eq .idle) .idle .idle
      (modify fun r => { r with warnings := [] } : Detecting σ DetectorFault PUnit) :=
    .of_quiet fun r hr => ⟨⟨(), rfl⟩, rfl, rfl, hr⟩
  apply hclear.bind
  intro _
  -- The report may fail in any of its actions, and the attempt is idle again in both cases.
  apply hreport.attempt.bind
  intro result
  cases result with
  | error f => exact Orderly.get.bind fun _ => .pure _
  | ok a =>
    obtain ⟨report, live, p⟩ := a
    have hreturn : ∀ fixed : Nat, Orderly d v DetectorAction.home (Eq .idle) .idle .idle (do
        return .ok report (← get).warnings [("report_path", .text p.text), ("auto_fixed", .ofNat fixed)] :
          Detecting σ DetectorFault (Outcome Report)) := fun _ => Orderly.get.bind fun _ => .pure _
    dsimp only
    split
    · apply (Orderly.emit (fun _ => rfl) _).bind
      intro _
      apply orderly_fixing
      intro fixed
      split
      · exact (orderly_tell _ report).bind fun _ => hreturn fixed
      · exact hreturn fixed
    · apply orderly_fixing
      intro fixed
      split <;> exact hreturn fixed

theorem orderly_saveBaseline :
    Orderly d v DetectorAction.savingHome stop .idle .idle (d.saveBaseline v) := by
  have hsave : Orderly d v DetectorAction.savingHome (fun _ => True) .idle .analyzing (do
      let live ← analyze v
      (d.replaceBaseline live).adapt DetectionFault.save
      return live) :=
    (orderly_analyze rfl trivial).bind fun live =>
      (Orderly.adapt _ (orderly_replaceBaseline rfl live)).bind fun _ => .pure _
  unfold saveBaseline
  apply hsave.attempt.bind
  intro result
  cases result with
  | error f => exact .pure _
  | ok live => exact (Orderly.emit (fun _ => rfl) _).bind fun _ => .pure _

/-! ## Sequences of calls -/

end Detector

/-- A call of a detector, with what it finds outside and in the files. -/
structure DetectorCall (σ : Type) where
  services : Services σ
  outside : σ
  tree : FileTree
  /-- The time of a detection; without one, the live schema is made the baseline. -/
  detects : Option Moment

namespace DetectorCall

variable {d : Detector} {r : DetectorRun σ}

def start (c : DetectorCall σ) (r : DetectorRun σ) : DetectorRun σ := { r with outside := c.outside, tree := c.tree }

/-- What is left of a run after a call, whatever the call came to. -/
def serve (d : Detector) (r : DetectorRun σ) (c : DetectorCall σ) : DetectorRun σ :=
  match c.detects with
  | some now => (d.detect c.services now (c.start r)).2
  | none => (d.saveBaseline c.services (c.start r)).2

def home (c : DetectorCall σ) : DetectorAction → DetectorState :=
  if c.detects.isSome then DetectorAction.home else DetectorAction.savingHome

theorem serve_idle (h : r.state = .idle) (c : DetectorCall σ) : (c.serve d r).state = .idle ∧
    ∃ l, (c.serve d r).trace = r.trace ++ l ∧
      d.Trail c.services c.home l (c.outside, c.tree) (c.serve d r).world := by
  have hstart : (c.start r).state = .idle := h
  unfold serve home
  cases c.detects with
  | some now =>
    obtain ⟨htrail, hstate⟩ := d.orderly_detect (v := c.services) now (c.start r) hstart
    refine ⟨?_, htrail⟩
    dsimp only
    split at hstate
    · exact hstate
    · exact hstate.symm
  | none =>
    have hsave : Orderly d c.services DetectorAction.savingHome (Eq .idle) .idle .idle (d.saveBaseline c.services) :=
      Detector.orderly_saveBaseline
    obtain ⟨htrail, hstate⟩ := hsave (c.start r) hstart
    refine ⟨?_, htrail⟩
    dsimp only
    split at hstate
    · exact hstate
    · exact hstate.symm

end DetectorCall

namespace Detector

theorem idle_serve_all (d : Detector) (r : DetectorRun σ) (h : r.state = .idle) (calls : List (DetectorCall σ)) :
    (calls.foldl (fun r c => c.serve d r) r).state = .idle := by
  induction calls using List.reverseRecOn with
  | nil => exact h
  | append_singleton calls c ih =>
    rw [List.foldl_append]
    exact (c.serve_idle ih).1

/-- Before and after each call of a sequence the detector is idle, however the calls end. What a call does outside and
to the files is what it notes, each action in the state it belongs to. -/
theorem idle_between (d : Detector) (outside : σ) (tree : FileTree) (past : List (DetectorCall σ))
    (c : DetectorCall σ) :
    let before := past.foldl (fun r c => c.serve d r) { outside, tree }
    let after := c.serve d before
    before.state = .idle ∧ after.state = .idle ∧
      ∃ l, after.trace = before.trace ++ l ∧ d.Trail c.services c.home l (c.outside, c.tree) after.world ∧
        (c.detects.isSome = true → ∀ s a, (s, a) ∈ l → s = a.home) := by
  intro before after
  have hbefore : before.state = .idle := d.idle_serve_all { outside, tree } rfl past
  obtain ⟨hafter, l, hl, htrail⟩ := c.serve_idle (d := d) hbefore
  refine ⟨hbefore, hafter, l, hl, htrail, ?_⟩
  intro hdetects s a hmem
  have hhome := htrail.at_home (s, a) hmem
  rwa [DetectorCall.home, if_pos hdetects] at hhome

end Detector

end SchemaConcord
