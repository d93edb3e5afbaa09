import SchemaConcord.Command.Run
import SchemaConcord.Proofs.Drift.Conduct
import SchemaConcord.Proofs.Pool.Lifecycle

/-!
# How commands end

A command ends with 0 when its configuration loads, its connection opens and what it does succeeds and finds nothing
amiss (`Commanding.Passes`), and else with 1. Between the opening and the closing of the connection everything leaves
it open, so at the end every engine was disposed of once, also when the command ends with a fault
(`Commanding.exit_code`).
-/

namespace SchemaConcord

open ConnectionEvent

/-! ## Work on the open connection -/

namespace Manager

variable {m : Manager σ} {i : Nat}

/-- Connection `i` is the one that is open. -/
def Open (m : Manager σ) (i : Nat) : Prop := ∃ c e, m.Serving i c e

theorem Open.onConnection (h : m.Open i) {work : Work σ α} (hwork : ∀ s, Calls s.events → Calls (work s).1.events) :
    (m.onConnection i work).1.Open i := by
  obtain ⟨c, e, h⟩ := h
  rw [h.onConnection]
  exact ⟨_, _, h.resume (hwork _ nofun)⟩

theorem Open.transaction (h : m.Open i) (b : Backend σ) {work : Work σ α}
    (hwork : ∀ s, Calls s.events → Calls (work s).1.events) : (m.transaction b i work).1.Open i :=
  h.onConnection fun s => s.calls_work b hwork

theorem Open.query (h : m.Open i) (b : Backend σ) (sql : String) (parameters : Datum) :
    (m.query b i sql parameters).1.Open i :=
  h.transaction b fun s hs => s.calls_execute b m.kind hs sql parameters

theorem Open.analyze (h : m.Open i) (b : Backend σ) (a : Analyzer) (now : Moment) :
    (m.analyze b i a now).1.Open i :=
  h.transaction b fun _ hs => hs

theorem Open.isHealthy (h : m.Open i) (b : Backend σ) : (m.isHealthy b i).1.Open i :=
  h.onConnection fun s => s.calls_work b fun _ hs => hs

theorem Open.disposed (h : m.Open i) (b : Backend σ) : ∀ g ∈ (m.disconnect b).engines, g.disposals = 1 := by
  obtain ⟨c, e, h⟩ := h
  exact (h.disconnect b).1.disposed

end Manager

namespace Commanding

variable {e : Surroundings σ} {c : Configuration} {r : CommandRun σ} {P Q : Prop}

/-! ## Verdicts -/

/-- A part leaves the connections alone and gives 0 when `P` holds, and else 1. -/
def Verdict (P : Prop) (part : Commanding σ Nat) : Prop :=
  ∀ r, (part r).2.manager = r.manager ∧ ∃ n, (part r).1 = .ok n ∧ (n = 0 ∧ P ∨ n = 1 ∧ ¬ P)

theorem Verdict.congr {part : Commanding σ Nat} (h : Verdict P part) (hPQ : P ↔ Q) : Verdict Q part := by
  rwa [propext hPQ] at h

theorem Verdict.print {part : Commanding σ Nat} (h : Verdict P part) (l : List Printed) :
    Verdict P (print l >>= fun _ => part) :=
  fun r => h { r with printed := r.printed ++ l }

theorem verdict_good (good : Bool) : Verdict (good = true) (pure (if good then 0 else 1) : Commanding σ Nat) := by
  intro r
  refine ⟨rfl, _, rfl, ?_⟩
  cases good with
  | true => exact .inl ⟨rfl, rfl⟩
  | false => exact .inr ⟨rfl, nofun⟩

theorem verdict_refused : Verdict False (pure 1 : Commanding σ Nat) :=
  fun _ => ⟨rfl, 1, rfl, .inr ⟨rfl, id⟩⟩

theorem verdict_conclude (o : Outcome α) (good : α → List Printed × Bool) :
    Verdict (∃ a, o.result = .ok a ∧ (good a).2 = true) (conclude o good : Commanding σ Nat) := by
  unfold conclude
  apply Verdict.print
  cases hresult : o.result with
  | error f =>
    apply Verdict.print
    refine verdict_refused.congr (iff_of_false id ?_)
    rintro ⟨a, ha, -⟩
    cases ha
  | ok a =>
    refine ((verdict_good (good a).2).print _).congr ?_
    exact ⟨fun h => ⟨a, rfl, h⟩, fun ⟨_, ha, h⟩ => Except.ok.inj ha ▸ h⟩

/-! ## The connection of a command -/

/-- What opening a connection for a configuration comes to. -/
def opened (e : Surroundings σ) (c : Configuration) : Manager σ × Outcome Nat :=
  Manager.connect { settings := c.database } e.database

/-- How a command ends: with 0 when `P` holds, else with 1, if it does not end with a fault; and in any case every
engine was disposed of once. -/
structure Concludes (P : Prop) (x : Except CommandFault Nat × CommandRun σ) : Prop where
  code : ∀ n, x.1 = .ok n → n = 0 ∧ P ∨ n = 1 ∧ ¬ P
  disposed : ∀ g ∈ x.2.manager.engines, g.disposals = 1

theorem Concludes.congr {x : Except CommandFault Nat × CommandRun σ} (h : Concludes P x) (hPQ : P ↔ Q) :
    Concludes Q x := by
  rwa [propext hPQ] at h

theorem Verdict.concludes {part : Commanding σ Nat} (h : Verdict P part)
    (hr : ∀ g ∈ r.manager.engines, g.disposals = 1) : Concludes P (part r) := by
  obtain ⟨hmanager, n, hn, hcode⟩ := h r
  refine ⟨fun k hk => ?_, hmanager ▸ hr⟩
  cases hn.symm.trans hk
  exact hcode

theorem run_connect (e : Surroundings σ) (c : Configuration) (r : CommandRun σ) :
    connect e c r = match (opened e c).2.result with
      | .ok j => (.ok (some j), { r with manager := (opened e c).1 })
      | .error f => (.ok none, { r with
          manager := (opened e c).1, printed := r.printed ++ .failure f.message :: Printed.details f.details }) := by
  have hopened : onManager (fun _ => Manager.connect { settings := c.database } e.database) r =
    (.ok (opened e c).2, { r with manager := (opened e c).1 }) := rfl
  unfold connect
  rw [run_bind, hopened]
  dsimp only
  cases (opened e c).2.result <;> rfl

/-- A command that does its work on a connection, and then says what it makes of it. -/
theorem concludes_connected {part : Nat → Commanding σ α} {next : Option α → Commanding σ Nat} {good : α → Prop}
    (hopen : ∀ j s, s.manager.Open j → (part j s).2.manager.Open j) (hnone : Verdict False (next none))
    (hsome : ∀ a, Verdict (good a) (next (some a))) :
    Concludes (∃ j, (opened e c).2.result = .ok j ∧
        ∃ a, (part j { r with manager := (opened e c).1 }).1 = .ok a ∧ good a)
      ((withConnection e c part >>= next) r) := by
  unfold withConnection
  rw [run_bind, run_bind]
  -- Without a connection the part is not run, and the manager has nothing to close.
  rcases (Manager.idle_start c.database).connect rfl e.database with ⟨hidle, -, hfailed⟩ | ⟨j, k, g, hserving, hj⟩
  · obtain ⟨f, hf⟩ : ∃ f, (opened e c).2.result = .error f := by
      cases hresult : (opened e c).2.result with
      | error f => exact ⟨f, rfl⟩
      | ok j =>
        have hok : (opened e c).2.isOk = true := by rw [Outcome.isOk, hresult]
        cases hfailed.symm.trans hok
    rw [run_connect, hf]
    refine Concludes.congr (hnone.concludes hidle.disposed) (iff_of_false id ?_)
    rintro ⟨j, hj, -⟩
    cases hj
  · have hj : (opened e c).2.result = .ok j := hj
    have hend := hopen j { r with manager := (opened e c).1 } ⟨k, g, hserving⟩
    rw [run_connect, hj]
    dsimp only
    cases hx : part j { r with manager := (opened e c).1 } with
    | mk x s =>
      rw [hx] at hend
      cases x with
      | error f =>
        refine ⟨?_, hend.disposed e.database⟩
        intro n hn
        cases hn
      | ok a =>
        refine ((hsome a).concludes (hend.disposed e.database)).congr ?_
        constructor
        · exact fun h => ⟨j, rfl, a, by rw [hx], h⟩
        · rintro ⟨_, ⟨⟩, a', ha', h⟩
          rw [hx] at ha'
          cases ha'
          exact h

/-! ## What commands do on their connection -/

theorem open_runDetector {d : Detector} {home : DetectorAction → DetectorState} {stop : DetectorState → Prop}
    {s' : DetectorState} {part : Detecting (Manager σ) DetectorFault α} {j : Nat}
    (h : Orderly d (services e c j) home stop .idle s' part) (hr : r.manager.Open j) :
    (runDetector part r).2.manager.Open j := by
  obtain ⟨⟨l, -, htrail⟩, -⟩ := h { outside := r.manager, tree := r.tree } rfl
  have hkept : ∀ w, d.Trail (services e c j) home l (r.manager, r.tree) w → w.1.Open j := by
    intro w hw
    refine hw.keeps (I := fun m => m.Open j) ?_ ?_ ?_ hr
    · exact fun m hm => hm.analyze e.database c.analyzer e.now
    · intro query hquery sql parameters m hm
      cases hquery
      exact hm.query e.database sql parameters
    · exact fun _ _ _ hm => hm
  exact hkept _ htrail

theorem runDetector_ok {part : Detecting (Manager σ) DetectorFault α} {a : α} : (runDetector part r).1 = .ok a ↔
    (part { outside := r.manager, tree := r.tree }).1 = .ok a :=
  mapError_eq_ok

/-- A check of the live schema, on connection `j`. -/
def checking (e : Surroundings σ) (c : Configuration) (check : Snapshot → FileTree → FileTree × Outcome α) (j : Nat) :
    Commanding σ (Option (Outcome α)) := do
  match ← liveSchema e c j with
  | none => return none
  | some s => return some (← onFiles (check s))

theorem checked_eq (check : Snapshot → FileTree → FileTree × Outcome α) :
    checked e c check = withConnection e c (checking e c check) >>= fun found => pure found.join := rfl

theorem run_liveSchema (j : Nat) (r : CommandRun σ) :
    let found := r.manager.analyze e.database j c.analyzer e.now
    ∃ printed, liveSchema e c j r = (.ok found.2.toOption, { r with manager := found.1, printed }) := by
  intro found
  have hfound : onManager (fun m => m.analyze e.database j c.analyzer e.now) r =
    (.ok found.2, { r with manager := found.1 }) := rfl
  unfold liveSchema
  rw [run_bind, hfound]
  dsimp only
  cases found.2 with
  | ok s => exact ⟨_, rfl⟩
  | error f => cases f <;> exact ⟨_, rfl⟩

/-- Nothing is checked when the analysis fails. -/
theorem run_checking (check : Snapshot → FileTree → FileTree × Outcome α) (j : Nat) (r : CommandRun σ) :
    let found := r.manager.analyze e.database j c.analyzer e.now
    (checking e c check j r).1 = .ok (found.2.toOption.map fun s => (check s r.tree).2) ∧
      (checking e c check j r).2.manager = found.1 := by
  intro found
  obtain ⟨printed, hlive⟩ := run_liveSchema (e := e) (c := c) j r
  unfold checking
  rw [run_bind, hlive]
  cases found.2 with
  | ok s => exact ⟨rfl, rfl⟩
  | error f => exact ⟨rfl, rfl⟩

/-- What a command does on its connection succeeds, and finds nothing amiss; `m` is the manager with the connection
open. -/
def Passes (e : Surroundings σ) (c : Configuration) (i : Invocation) (tree : FileTree) (m : Manager σ) (j : Nat) :
    Prop :=
  let analyzed (s : Snapshot) : Prop := (m.analyze e.database j c.analyzer e.now).2 = .ok s
  match i.command with
  | .detect => ∃ o report, ((c.detector true).detect (services e c j) e.now { outside := m, tree }).1 = .ok o ∧
      o.result = .ok report ∧ ∀ x ∈ report.drifts, x.severity ≠ .critical ∧ x.severity ≠ .high
  | .baseline => ∃ o s, ((c.detector false).saveBaseline (services e c j) { outside := m, tree }).1 = .ok o ∧
      o.result = .ok s
  | .routes => ∃ s f, analyzed s ∧
      (RouteProject.validate ⟨{ c.validation.routes with strict := i.strict || c.validation.routes.strict },
        c.projectRoot⟩ s tree).2.result = .ok f ∧ f.invalid = [] ∧ f.missing = []
  | .forms => ∃ s checks, analyzed s ∧ (c.formProject.validate s tree).result = .ok checks ∧
      ∀ check ∈ checks, check.table ≠ none → check.missingColumns = [] ∧ check.kindMismatches = [] ∧
        check.extraFields = [] ∧ check.ruleMismatches = []
  | .health => ∃ rows, (m.onConnection j fun s => s.ping e.database).2 = .ok rows

/-! ## The commands -/

variable {i : Invocation}

theorem not_hasBlocking_iff (report : Report) : (!report.hasBlocking) = true ↔
    ∀ x ∈ report.drifts, x.severity ≠ .critical ∧ x.severity ≠ .high := by
  have hseverity : ∀ s : Severity, s.isBlocking = false ↔ s ≠ .critical ∧ s ≠ .high := by
    intro s
    cases s <;> simp [Severity.isBlocking]
  simp [Report.hasBlocking, hseverity]

theorem concludes_detect (hi : i.command = .detect) : Concludes
    (∃ j, (opened e c).2.result = .ok j ∧ Passes e c i r.tree (opened e c).1 j) (detect e c r) := by
  unfold detect
  refine (concludes_connected (fun j s hs => open_runDetector (Detector.orderly_detect e.now) hs) verdict_refused
    fun o => verdict_conclude o _).congr ?_
  apply exists_congr
  intro j
  apply and_congr_right
  intro _
  simp only [Passes, hi, runDetector_ok, not_hasBlocking_iff]
  constructor
  · rintro ⟨o, ho, report, hreport, hseverity⟩
    exact ⟨o, report, ho, hreport, hseverity⟩
  · rintro ⟨o, report, ho, hreport, hseverity⟩
    exact ⟨o, ho, report, hreport, hseverity⟩

theorem concludes_baseline (hi : i.command = .baseline) : Concludes
    (∃ j, (opened e c).2.result = .ok j ∧ Passes e c i r.tree (opened e c).1 j) (baseline e c r) := by
  have hsave : ∀ j, Orderly (c.detector false) (services e c j) DetectorAction.savingHome (Eq .idle) .idle .idle
      ((c.detector false).saveBaseline (services e c j)) := fun _ => Detector.orderly_saveBaseline
  unfold baseline
  refine (concludes_connected (fun j s hs => open_runDetector (hsave j) hs) verdict_refused
    fun o => verdict_conclude o _).congr ?_
  apply exists_congr
  intro j
  apply and_congr_right
  intro _
  simp only [Passes, hi, runDetector_ok, and_true]
  constructor
  · rintro ⟨o, ho, s, hs⟩
    exact ⟨o, s, ho, hs⟩
  · rintro ⟨o, s, ho, hs⟩
    exact ⟨o, ho, s, hs⟩

/-- A command that checks the live schema against the project, and then says what it makes of it. -/
theorem concludes_checked {check : Snapshot → FileTree → FileTree × Outcome α} {good : α → Prop}
    {next : Option (Outcome α) → Commanding σ Nat} (hnone : Verdict False (next none))
    (hsome : ∀ o, Verdict (∃ a, o.result = .ok a ∧ good a) (next (some o))) :
    Concludes (∃ j, (opened e c).2.result = .ok j ∧
        ∃ s a, ((opened e c).1.analyze e.database j c.analyzer e.now).2 = .ok s ∧ (check s r.tree).2.result = .ok a ∧
          good a)
      ((checked e c check >>= next) r) := by
  have hkeeps : ∀ j (s : CommandRun σ), s.manager.Open j → (checking e c check j s).2.manager.Open j := by
    intro j s hs
    rw [(run_checking check j s).2]
    exact hs.analyze e.database c.analyzer e.now
  have hfound : ∀ found : Option (Outcome α), Verdict
      (∃ o, found = some o ∧ ∃ a, o.result = .ok a ∧ good a) (next found) := by
    intro found
    cases found with
    | none => exact hnone.congr (by simp)
    | some o => exact (hsome o).congr (by simp)
  rw [checked_eq, bind_assoc]
  refine (concludes_connected hkeeps hnone hfound).congr ?_
  apply exists_congr
  intro j
  apply and_congr_right
  intro _
  rw [(run_checking check j _).1]
  dsimp only
  cases ((opened e c).1.analyze e.database j c.analyzer e.now).2 with
  | error f => simp [Except.toOption]
  | ok s => simp [Except.toOption]

theorem concludes_routes (hi : i.command = .routes) : Concludes
    (∃ j, (opened e c).2.result = .ok j ∧ Passes e c i r.tree (opened e c).1 j) (routes e c i.strict r) := by
  unfold routes
  refine (concludes_checked verdict_refused fun o => verdict_conclude o _).congr ?_
  simp only [Passes, hi, RouteFindings.isValid, Bool.and_eq_true, List.isEmpty_iff]

theorem check_isValid_iff (check : FormCheck) : (check.table.isNone || check.isValid) = true ↔
    (check.table ≠ none → check.missingColumns = [] ∧ check.kindMismatches = [] ∧ check.extraFields = [] ∧
      check.ruleMismatches = []) := by
  cases check.table with
  | none => simp
  | some t => simp [FormCheck.isValid, and_assoc]

theorem concludes_forms (hi : i.command = .forms) : Concludes
    (∃ j, (opened e c).2.result = .ok j ∧ Passes e c i r.tree (opened e c).1 j) (forms e c i.suggest r) := by
  unfold forms
  refine (concludes_checked verdict_refused fun o => verdict_conclude o _).congr ?_
  simp only [Passes, hi, List.all_eq_true, check_isValid_iff]

theorem isHealthy_iff (m : Manager σ) (b : Backend σ) (j : Nat) : (m.isHealthy b j).2 = true ↔
    ∃ rows, (m.onConnection j fun s => s.ping b).2 = .ok rows := by
  unfold Manager.isHealthy
  cases hping : (m.onConnection j fun s => s.ping b).2 with
  | ok rows => simp [hping]
  | error f => simp [hping]

theorem concludes_health (hi : i.command = .health) : Concludes
    (∃ j, (opened e c).2.result = .ok j ∧ Passes e c i r.tree (opened e c).1 j) (health e c r) := by
  have hsome : ∀ found : Bool × PoolCount, Verdict (found.1 = true) (do
      print (found.2.printedHealth c.database.engine found.1)
      return if found.1 then 0 else 1 : Commanding σ Nat) := fun found => (verdict_good found.1).print _
  unfold health
  refine (concludes_connected ?_ verdict_refused hsome).congr ?_
  · exact fun j s hs => hs.isHealthy e.database
  · apply exists_congr
    intro j
    apply and_congr_right
    intro _
    simp only [Passes, hi]
    rw [← isHealthy_iff]
    constructor
    · rintro ⟨a, ha, hgood⟩
      cases ha
      exact hgood
    · exact fun h => ⟨_, rfl, h⟩

/-! ## The configuration of a command -/

theorem run_configuration (i : Invocation) (r : CommandRun σ) :
    configuration i r = match Configuration.load (i.config.map .parse) r.tree with
      | .ok c => (.ok (some c), { r with levels := if i.verbose then r.levels else .named c.logging.level })
      | .error f =>
        if f.isReported then (.ok none, { r with printed := r.printed ++ [.error f.message] })
        else (.error (.configuration f), r) := by
  have hget : (get : Commanding σ (CommandRun σ)) r = (.ok r, r) := rfl
  unfold configuration
  rw [run_bind, hget]
  dsimp only
  cases Configuration.load (i.config.map .parse) r.tree with
  | ok c => cases i.verbose <;> rfl
  | error f =>
    dsimp only
    split <;> rfl

/-- A command that loads its configuration, and then goes on with it. -/
theorem concludes_configured {next : Option Configuration → Commanding σ Nat} {good : Configuration → Prop}
    (hr : ∀ g ∈ r.manager.engines, g.disposals = 1) (hnone : Verdict False (next none))
    (hsome : ∀ c levels, Concludes (good c) (next (some c) { r with levels })) :
    Concludes (∃ c, Configuration.load (i.config.map .parse) r.tree = .ok c ∧ good c)
      ((configuration i >>= next) r) := by
  rw [run_bind, run_configuration]
  cases Configuration.load (i.config.map .parse) r.tree with
  | ok c =>
    refine (hsome c _).congr ?_
    exact ⟨fun h => ⟨c, rfl, h⟩, fun ⟨_, hc, h⟩ => Except.ok.inj hc ▸ h⟩
  | error f =>
    dsimp only
    by_cases hf : f.isReported
    · rw [if_pos hf]
      dsimp only
      refine Concludes.congr (hnone.concludes hr) (iff_of_false id ?_)
      rintro ⟨c, hc, -⟩
      cases hc
    · rw [if_neg hf]
      refine ⟨?_, hr⟩
      intro n hn
      cases hn

theorem concludes_command (i : Invocation) (r : CommandRun σ) (hr : ∀ g ∈ r.manager.engines, g.disposals = 1) :
    Concludes (∃ c, Configuration.load (i.config.map .parse) r.tree = .ok c ∧
      ∃ j, (opened e c).2.result = .ok j ∧ Passes e c i r.tree (opened e c).1 j) (command e i r) := by
  have hlog : logAt (if i.verbose then "DEBUG" else "INFO") r =
    (.ok (), { r with levels := .named (if i.verbose then "DEBUG" else "INFO") }) := rfl
  unfold command
  rw [run_bind, hlog]
  refine concludes_configured (r := { r with levels := .named (if i.verbose then "DEBUG" else "INFO") }) hr
    verdict_refused ?_
  intro c levels
  cases hi : i.command with
  | detect => exact concludes_detect (r := { r with levels }) hi
  | baseline => exact concludes_baseline (r := { r with levels }) hi
  | routes => exact concludes_routes (r := { r with levels }) hi
  | forms => exact concludes_forms (r := { r with levels }) hi
  | health => exact concludes_health (r := { r with levels }) hi

/-- A command that returns ends with 0 when its configuration loads, its connection opens and what it does succeeds and
finds nothing amiss, and else with 1. Every engine that it made was disposed of once, however the command ends. -/
theorem exit_code (e : Surroundings σ) (i : Invocation) (tree : FileTree) (levels : LogLevels) :
    let run := command e i { tree, levels }
    (∀ code, run.1 = .ok code →
      (code = 0 ↔ ∃ c, Configuration.load (i.config.map .parse) tree = .ok c ∧
        ∃ j, (opened e c).2.result = .ok j ∧ Passes e c i tree (opened e c).1 j) ∧ (code = 0 ∨ code = 1)) ∧
    ∀ g ∈ run.2.manager.engines, g.disposals = 1 := by
  intro run
  obtain ⟨hcode, hdisposed⟩ := concludes_command (e := e) i { tree, levels } nofun
  refine ⟨?_, hdisposed⟩
  intro code hrun
  rcases hcode code hrun with ⟨rfl, hpasses⟩ | ⟨rfl, hpasses⟩
  · exact ⟨iff_of_true rfl hpasses, .inl rfl⟩
  · exact ⟨iff_of_false Nat.one_ne_zero hpasses, .inr rfl⟩

def willing : Surroundings Unit :=
  { database := Manager.willing, post := fun _ _ => .answered 200, now := ⟨2024, 5, 1, 12, 0, 0, 0, some 0⟩ }

def configured : FileTree := ⟨[(["app.toml"], .file (.text "[database]\nengine = \"sqlite\"\n") 0)], [], 1⟩

/-- The database answers, and the configuration is there or is not. -/
theorem exit_code_health :
    let there : Invocation := ⟨.health, some "/app.toml", false, false, false⟩
    let absent : Invocation := ⟨.health, some "/shop.toml", false, false, false⟩
    (command willing there { tree := configured }).1 = .ok 0 ∧
      (command willing absent { tree := configured }).1 = .ok 1 ∧
      (∃ c, Configuration.load (there.config.map .parse) configured = .ok c ∧
        ∃ j, (opened willing c).2.result = .ok j ∧ Passes willing c there configured (opened willing c).1 j) ∧
      ¬ ∃ c, Configuration.load (absent.config.map .parse) configured = .ok c ∧
        ∃ j, (opened willing c).2.result = .ok j ∧ Passes willing c absent configured (opened willing c).1 j := by
  intro there absent
  have hthere : (command willing there { tree := configured }).1 = .ok 0 := by decide +kernel
  have habsent : (command willing absent { tree := configured }).1 = .ok 1 := by decide +kernel
  refine ⟨hthere, habsent, ?_, ?_⟩
  · exact ((exit_code willing there configured {}).1 0 hthere).1.mp rfl
  · intro hpasses
    cases ((exit_code willing absent configured {}).1 1 habsent).1.mpr hpasses

end Commanding

end SchemaConcord
