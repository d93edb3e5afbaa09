import SchemaConcord.Proofs.Drift.AutoFix
import SchemaConcord.Proofs.Drift.Warnings
import SchemaConcord.Proofs.Route.Repeat

/-!
# Notifications

A report that was written is delivered or not, and the run goes on in either case: what became of the message is told
by one warning and one event at most. Only an address that is none ends the run.
-/

namespace SchemaConcord

open FileTree Detecting

/-! ## The baseline a fix saves -/

theorem Drift.not_isFixable {x : Drift} (h : x.type = .routeMismatch ∨ x.type = .formFieldMismatch) :
    x.isFixable = false := by
  have hkind : x.suggest.kind = .codeChange := by
    unfold Drift.suggest
    rcases h with h | h <;> rw [h]
  simp [Drift.isFixable, hkind]

theorem RouteFindings.type_drifts {f : RouteFindings} {x : Drift} (h : x ∈ f.drifts) : x.type = .routeMismatch := by
  rcases List.mem_append.mp h with h | h <;> obtain ⟨_, -, rfl⟩ := List.mem_map.mp h <;> rfl

theorem FormCheck.type_drifts {c : FormCheck} {x : Drift} (h : x ∈ c.drifts) : x.type = .formFieldMismatch := by
  unfold FormCheck.drifts at h
  split at h
  · cases h
  · simp only [List.mem_append, List.mem_map] at h
    rcases h with ((⟨_, -, rfl⟩ | ⟨_, -, rfl⟩) | ⟨_, -, rfl⟩) | ⟨_, -, rfl⟩ <;> rfl

namespace FileTree

variable {t : FileTree} {p : Path}

theorem makeDirectories_of_isFile (h : t.isFile p = true) (hp : p.parts = []) :
    ∃ f, t.makeDirectories p.parent = .error f := by
  obtain ⟨root, parts⟩ := p
  obtain rfl : parts = [] := hp
  unfold isFile at? at h
  show ∃ f, t.ensureDirectory ⟨root, []⟩ = .error f
  unfold ensureDirectory
  cases hl : t.locate ⟨root, []⟩ with
  | error o => exact ⟨_, rfl⟩
  | ok l =>
    rw [hl] at h
    cases he : t.entry? l with
    | none => simp [Except.toOption, he] at h
    | some e =>
      cases e with
      | file c n => exact ⟨⟨.present, ⟨root, []⟩, none⟩, by simp only [he]⟩
      | directory n => simp [Except.toOption, he, Entry.isDirectory] at h

theorem grows_validate (project : RouteProject) (s : Snapshot) (t : FileTree) : Grows t (project.validate s t).1 := by
  unfold RouteProject.validate
  dsimp only
  split
  · exact .refl t
  · unfold RouteProject.generate
    split
    · exact grows_writeStubs _ _ t
    · exact .refl t

end FileTree

theorem ReportArchive.grows_write {a : ReportArchive} {report : Report} {t t' : FileTree} {p : Path}
    (h : a.write report t = (t', .ok p)) : Grows t t' := by
  unfold write at h
  split at h
  · cases h
  · next u hu =>
    split at h
    · next w q hw =>
      cases h
      obtain ⟨k, -, hc⟩ := writeFrom_ok hw
      exact (grows_makeDirectories hu).trans (grows_create hc)
    · cases h

namespace Detecting

variable {σ ε α β : Type} {Q : α → Prop}

/-- What a part of a run gives, when it gives something, is as `Q` says. -/
def Yields (Q : α → Prop) (part : Detecting σ ε α) : Prop := ∀ r a, (part r).1 = .ok a → Q a

theorem Yields.pure {a : α} (h : Q a) : Yields Q (Pure.pure a : Detecting σ ε α) := by
  intro r a' ha
  exact Except.ok.inj ha ▸ h

theorem Yields.bind {part : Detecting σ ε β} {next : β → Detecting σ ε α} (h : ∀ b, Yields Q (next b)) :
    Yields Q (part >>= next) := by
  intro r a ha
  rw [run_bind] at ha
  cases hp : part r with
  | mk x u =>
    rw [hp] at ha
    cases x with
    | error e => cases ha
    | ok b => exact h b u a ha

end Detecting

namespace Detector

variable {σ ε : Type} {d : Detector} {v : Services σ} {r r' : DetectorRun σ}

theorem yields_checkedDrifts {subject : String} {drifts : α → List Drift} {o : Outcome α} {Q : List Drift → Prop}
    (hnone : Q []) (hsome : ∀ a, Q (drifts a)) : Yields Q (checkedDrifts subject drifts o : Detecting σ ε _) := by
  refine .bind fun _ => ?_
  split
  · exact .pure (hsome _)
  · exact .bind fun _ => .pure hnone

/-- What holds for all drifts of route findings holds for those that a run comes to. -/
theorem yields_routeDrifts_of {Q : Drift → Prop} (hQ : ∀ f : RouteFindings, ∀ x ∈ f.drifts, Q x) (live : Snapshot) :
    Yields (fun l => ∀ x ∈ l, Q x) (d.routeDrifts live : Detecting σ ε _) := by
  unfold routeDrifts
  split
  · exact .pure (by simp)
  · split
    · exact .bind fun _ => .bind fun _ => yields_checkedDrifts (by simp) hQ
    · exact .pure (by simp)

theorem yields_routeDrifts (live : Snapshot) :
    Yields (fun l => ∀ x ∈ l, x.type = .routeMismatch) (d.routeDrifts live : Detecting σ ε _) :=
  yields_routeDrifts_of (fun _ _ => RouteFindings.type_drifts) live

theorem yields_formDrifts (live : Snapshot) :
    Yields (fun l => ∀ x ∈ l, x.type = .formFieldMismatch) (d.formDrifts live : Detecting σ ε _) := by
  unfold formDrifts
  split
  · exact .pure (by simp)
  · split
    · refine .bind fun _ => .bind fun _ => yields_checkedDrifts (by simp) fun checks x hx => ?_
      obtain ⟨c, -, hx⟩ := List.mem_flatMap.mp hx
      exact FormCheck.type_drifts hx
    · exact .pure (by simp)

variable {now : Moment} {live : Snapshot} {report : Report} {w : FileTree} {p : Path} {url : String} {a : WebAddress}

/-- Something is fixable only where a baseline is. -/
theorem isFile_of_fixable (h : (d.buildReport v now r).1 = .ok (report, live))
    (hfix : ∃ x ∈ report.drifts, x.isFixable = true) : r.tree.isFile d.baseline.path = true := by
  obtain ⟨-, baseline, ofSchema, ofRoutes, ofForms, hload, ⟨u, hu⟩, -, -, hdrifts, ⟨_, hroutes⟩, _, hforms⟩ :=
    buildReport_ok h
  obtain ⟨x, hx, hfix⟩ := hfix
  rw [hdrifts] at hx
  have hschema : x ∈ ofSchema := by
    rcases List.mem_append.mp (List.mem_filter.mp hx).1 with hx | hx
    · rcases List.mem_append.mp hx with hx | hx
      · exact hx
      · cases (Drift.not_isFixable (.inl (yields_routeDrifts live _ _ hroutes x hx))).symm.trans hfix
    · cases (Drift.not_isFixable (.inr (yields_formDrifts live _ _ hforms x hx))).symm.trans hfix
  cases baseline with
  | none => cases schemaDrifts_subset hu x hschema
  | some b =>
    unfold BaselineFile.load at hload
    split at hload
    · assumption
    · cases hload

/-- The baseline can be saved, as far as its name goes, when something is fixable. -/
theorem save_ne_nameless (h : d.Writes v now r live report w p) (hnames : "" ∉ d.baseline.path.parts)
    (hfix : ∃ x ∈ report.drifts, x.isFixable = true) (q : Path) :
    (d.baseline.save live w).2 ≠ .error (.namelessPath q) := by
  have hbefore := isFile_of_fixable h.built hfix
  have hgrows : Grows r.tree w :=
    (keeps_buildReport (d := d) (v := v) (R := Grows) .refl (fun _ _ _ => .trans)
      (fun project _ => grows_validate project) now { r with warnings := [] }).1.trans
      (ReportArchive.grows_write h.written)
  have hfile := hgrows.isFile hbefore
  intro hsave
  unfold BaselineFile.save at hsave
  split at hsave
  · next hname =>
    have hparts : d.baseline.path.parts = [] := by
      by_contra hne
      have hlast : d.baseline.path.name = d.baseline.path.parts.getLast hne := by
        simp [Path.name, List.getLast?_eq_some_getLast hne]
      have hempty : d.baseline.path.parts.getLast hne = "" := by
        rw [← hlast]
        simpa using hname
      exact hnames (hempty ▸ List.getLast_mem hne)
    obtain ⟨f, hf⟩ := makeDirectories_of_isFile hfile hparts
    rw [hf] at hsave
    cases hsave
  · dsimp only at hsave
    cases hrun : (runSteps (d.baseline.saveSteps [Json.indented live.toDatum]) w).2 <;> rw [hrun] at hsave <;>
      cases hsave

/-- A fix ends a run only when the baseline has no name. -/
theorem exists_fix {u : DetectorRun σ}
    (h : (∃ x ∈ report.drifts, x.isFixable = true) → ∀ q, (d.baseline.save live u.tree).2 ≠ .error (.namelessPath q)) :
    ∃ n, (d.fix live report u).1 = .ok n := by
  unfold fix
  by_cases hf : (report.drifts.filter Drift.isFixable).isEmpty
  · simp only [if_pos hf]
    exact ⟨0, rfl⟩
  · have hsome : ∃ x ∈ report.drifts, x.isFixable = true := by
      rw [List.isEmpty_iff, List.filter_eq_nil_iff] at hf
      simpa using hf
    rw [if_neg hf, run_bind, attempt_save]
    cases hsave : (d.baseline.save live u.tree).2 with
    | error f =>
      cases f with
      | namelessPath q => exact absurd hsave (h hsome q)
      | file f => exact ⟨0, rfl⟩
    | ok x =>
      obtain ⟨u', hu', -, -⟩ := run_emit_all (ε := DetectorFault) (report.drifts.filter Drift.isFixable) _
      dsimp only
      rw [run_bind, hu']
      exact ⟨_, rfl⟩

/-- A fix does not end a run that wrote its report. -/
theorem exists_maybeFix (h : d.Writes v now r live report w p) (hnames : "" ∉ d.baseline.path.parts)
    {u : DetectorRun σ} (hu : u.tree = w) : ∃ n, (d.maybeFix live report u).1 = .ok n := by
  unfold maybeFix
  split
  · exact exists_fix fun hfix => hu ▸ save_ne_nameless h hnames hfix
  · exact ⟨0, rfl⟩

theorem minds_maybeFix (live : Snapshot) (report : Report) (s : σ) :
    Minds (fun s' ws => s' = s ∧ Undelivered ws) (d.maybeFix live report) := by
  unfold maybeFix
  split
  · exact minds_fix live report s
  · exact .pure _

end Detector

/-! ## Deliveries -/

/-- A message was answered with a status that says so. -/
def PostReply.isDelivered : PostReply → Bool
  | .answered status => Delivery.isSuccess status
  | .failed .. | .broken .. => false

/-- What a transport makes of a message to an address: it fails, or brings an answer if there is a host to give one. -/
def WebAddress.Transports (a : WebAddress) : PostReply → Prop
  | .answered _ => a.isAbsolute = true
  | .failed .. => True
  | .broken .. => False

theorem WebAddress.Transports.exists_delivery {a : WebAddress} {reply : PostReply} (h : a.Transports reply) :
    ∃ delivery, Delivery.ofReply a reply = .ok delivery ∧
      (delivery.error?.toList.length = if reply.isDelivered then 0 else 1) := by
  cases reply with
  | answered status =>
    have habsolute : a.isAbsolute = true := h
    by_cases hs : Delivery.isSuccess status = true
    · exact ⟨.delivered status, by simp [Delivery.ofReply, habsolute, hs], by simp [PostReply.isDelivered, hs]; rfl⟩
    · exact ⟨.refused status, by simp [Delivery.ofReply, habsolute, hs], by simp [PostReply.isDelivered, hs]; rfl⟩
  | failed kind message => exact ⟨.failed kind message, rfl, rfl⟩
  | broken kind message => exact h.elim

def DetectorEvent.isNotificationFailed : DetectorEvent → Bool
  | .notificationFailed .. => true
  | _ => false

namespace Detector

variable {σ ε : Type} {d : Detector} {v : Services σ} {r r' : DetectorRun σ} {now : Moment} {live : Snapshot}
  {report : Report} {w : FileTree} {p : Path} {url : String} {a : WebAddress}

theorem tell_unparsed {f : WebAddressFault} (h : WebAddress.parse url = .error f) (r : DetectorRun σ) :
    tell v url report r = (.error (.webhook (.address f)), r) := by
  unfold tell
  rw [run_bind, run_settle, h]
  rfl

/-- What became of a message is told by as many warnings and events as it has errors. -/
theorem tell_delivered (ha : WebAddress.parse url = .ok a) {delivery : Delivery}
    (hd : Delivery.ofReply a (v.post a report.payload r.outside).2 = .ok delivery) :
    (tell v url report r).1 = .ok () ∧
      (tell v url report r).2.warnings = r.warnings ++ delivery.error?.toList.map (deliveryHead ++ ·) ∧
      (tell v url report r).2.events = r.events ++ delivery.error?.toList.map (.notificationFailed url) := by
  have hpost : DetectorRun.events { r with trace := r.trace ++ [(r.state, .post report)] } = r.events :=
    (events_note (.post report) r r.state).trans (List.append_nil _)
  unfold tell
  rw [run_bind, run_settle, ha]
  dsimp only [Except.mapError]
  simp only [run_bind, run_note, run_ask, run_settle, hd]
  dsimp only [Except.mapError]
  cases delivery.error? with
  | none => exact ⟨rfl, (List.append_nil _).symm, hpost.trans (List.append_nil _).symm⟩
  | some error =>
    refine ⟨rfl, rfl, ?_⟩
    exact (events_note (.emit (.notificationFailed url error))
      { r with trace := r.trace ++ [(r.state, .post report)] } r.state).trans (congrArg (· ++ _) hpost)

/-! ## Runs with a report -/

theorem maybeTell_eq (hdrifts : report.drifts ≠ []) (hurl : d.webhook = some url) :
    d.maybeTell v report = tell v url report := by
  have hsome : (!report.drifts.isEmpty) = true := by simpa using hdrifts
  unfold maybeTell
  rw [hurl]
  exact if_pos hsome

theorem countP_map_of_all {α β : Type} {test : β → Bool} {f : α → β} (h : ∀ x, test (f x) = true) (l : List α) :
    (l.map f).countP test = l.length := by
  rw [List.countP_eq_length.mpr fun y hy => ?_, List.length_map]
  obtain ⟨x, -, rfl⟩ := List.mem_map.mp hy
  exact h x

theorem silent_announcement (report : Report) (p : Path) :
    (announcement report p).countP DetectorEvent.isNotificationFailed = 0 := by
  unfold announcement
  split <;> rfl

theorem Fixes.silent {t t' : FileTree} {l : List DetectorEvent} (h : Fixes d live report t t' l) :
    l.countP DetectorEvent.isNotificationFailed = 0 := by
  cases h with
  | nothing | unsaved => rfl
  | saved =>
    refine List.countP_eq_zero.mpr fun e he => ?_
    rcases List.mem_append.mp he with he | he
    · obtain ⟨x, -, rfl⟩ := List.mem_map.mp he
      exact Bool.false_ne_true
    · obtain rfl := List.mem_singleton.mp he
      exact Bool.false_ne_true

/-- The run is at its last word before it tells the webhook: nothing was said about a delivery so far. -/
theorem Writes.before_tell (h : d.Writes v now r live report w p) (hnames : "" ∉ d.baseline.path.parts) :
    ∃ (u : DetectorRun σ) (l : List DetectorEvent) (fixed : Nat), d.detect v now r = (do
        d.maybeTell v report
        return .ok report (← get).warnings [("report_path", .text p.text), ("auto_fixed", .ofNat fixed)] :
          Detecting σ DetectorFault _) u ∧
      u.outside = (d.buildReport v now { r with warnings := [] }).2.outside ∧ Undelivered u.warnings ∧
      u.events = r.events ++ l ∧ l.countP DetectorEvent.isNotificationFailed = 0 := by
  obtain ⟨u₁, hdetect, htree, hevents, houtside, hwarnings⟩ :=
    finish_of_written h.enabled h.built h.written
  obtain ⟨u₂, htree', hevents', ⟨houtside', hwarnings'⟩, hfinish⟩ :=
    run_finish (d := d) (v := v) (r := u₁) live report p
  have hsilent : Undelivered u₂.warnings := by
    rw [hwarnings', hwarnings]
    exact noDelivery_buildReport now { r with warnings := [] } .nil
  obtain ⟨fixed, hfixed⟩ := exists_maybeFix h hnames (htree'.trans htree)
  obtain ⟨l, hl, hfixes⟩ := maybeFix_fixes (d := d) live report u₂
  obtain ⟨ho, hw⟩ := minds_maybeFix (d := d) live report u₂.outside u₂ ⟨rfl, hsilent⟩
  refine ⟨(d.maybeFix live report u₂).2, announcement report p ++ l, fixed, ?_, ?_, hw, ?_, ?_⟩
  · rw [hdetect, hfinish, run_bind_of_ok hfixed]
  · rw [ho, houtside', houtside]
  · rw [hl, hevents', hevents, List.append_assoc]
  · rw [List.countP_append, silent_announcement, hfixes.silent]

/-- A run that wrote its report ends well whatever becomes of the message about it, and tells of a failed delivery
once by a warning and once by an event. -/
theorem detect_notified (h : d.Writes v now r live report w p) (hdrifts : report.drifts ≠ [])
    (hurl : d.webhook = some url) (ha : WebAddress.parse url = .ok a) (hnames : "" ∉ d.baseline.path.parts)
    (hpost : ∀ payload s, a.Transports (v.post a payload s).2) :
    let reply := (v.post a report.payload (d.buildReport v now { r with warnings := [] }).2.outside).2
    (∃ delivery, Delivery.ofReply a reply = .ok delivery) ∧
      ∃ o, (d.detect v now r).1 = .ok o ∧ o.result = .ok report ∧
        o.warnings.countP isDeliveryWarning = (if reply.isDelivered then 0 else 1) ∧
        (d.told v now r).countP DetectorEvent.isNotificationFailed = if reply.isDelivered then 0 else 1 := by
  intro reply
  obtain ⟨u, l, fixed, hdetect, houtside, hsilent, hevents, hl⟩ := h.before_tell hnames
  obtain ⟨delivery, hdelivery, hcount⟩ : ∃ delivery, Delivery.ofReply a reply = .ok delivery ∧
      (delivery.error?.toList.length = if reply.isDelivered then 0 else 1) := (hpost _ _).exists_delivery
  have hdelivery' : Delivery.ofReply a (v.post a report.payload u.outside).2 = .ok delivery := houtside.symm ▸ hdelivery
  obtain ⟨htold, hwarnings, hfailed⟩ := tell_delivered ha hdelivery'
  rw [maybeTell_eq hdrifts hurl, run_bind_of_ok htold] at hdetect
  have hlast : (d.detect v now r).2.events =
      r.events ++ (l ++ delivery.error?.toList.map (.notificationFailed url)) := by
    rw [hdetect, ← List.append_assoc, ← hevents]
    exact hfailed
  refine ⟨⟨delivery, hdelivery⟩, _, by rw [hdetect]; rfl, rfl, ?_, ?_⟩
  · have hbefore : u.warnings.countP isDeliveryWarning = 0 :=
      List.countP_eq_zero.mpr fun w hw => by simp [hsilent w hw]
    show (tell v url report u).2.warnings.countP isDeliveryWarning = _
    rw [hwarnings, List.countP_append, hbefore, Nat.zero_add, ← hcount,
      countP_map_of_all fun error => isDeliveryWarning_append error]
  · rw [told_eq hlast, List.countP_append, hl, Nat.zero_add, ← hcount, countP_map_of_all fun _ => rfl]

/-- A run that wrote its report ends with a fault when there is no address to send it to. -/
theorem detect_unparsed (h : d.Writes v now r live report w p) (hdrifts : report.drifts ≠ [])
    (hurl : d.webhook = some url) {f : WebAddressFault} (hf : WebAddress.parse url = .error f)
    (hnames : "" ∉ d.baseline.path.parts) : (d.detect v now r).1 = .error (.webhook (.address f)) := by
  obtain ⟨u, l, fixed, hdetect, -⟩ := h.before_tell hnames
  rw [hdetect, maybeTell_eq hdrifts hurl, run_bind, tell_unparsed hf]

/-! ## A webhook that refuses -/

def notifying : Detector := { ofProject with webhook := some "https://hooks.example.com/drift" }

def refusing (live : Snapshot) : Services Unit :=
  { Services.always live with post := fun _ _ s => (s, .answered 503) }

/-- A message that is refused after a fix. -/
theorem detect_notified_orders :
    let v := refusing (.orders "text" "totals")
    let r := keptRun (.orders "integer" "by_total")
    let now : Moment := ⟨2024, 5, 2, 8, 0, 0, 0, some 0⟩
    let a : WebAddress := ⟨"https", "hooks.example.com", "/drift", none⟩
    WebAddress.parse "https://hooks.example.com/drift" = .ok a ∧ "" ∉ notifying.baseline.path.parts ∧
      (∀ payload s, a.Transports (v.post a payload s).2) ∧
      ∃ live report w p, notifying.Writes v now r live report w p ∧ report.drifts ≠ [] ∧
        ∃ o, (notifying.detect v now r).1 = .ok o ∧ o.result = .ok report ∧
          o.warnings.countP isDeliveryWarning = 1 ∧
          (notifying.told v now r).countP DetectorEvent.isNotificationFailed = 1 := by
  intro v r now a
  have ha : WebAddress.parse "https://hooks.example.com/drift" = .ok a := rfl
  have hnames : "" ∉ notifying.baseline.path.parts := by decide
  have hpost : ∀ payload s, a.Transports (v.post a payload s).2 := fun _ _ => rfl
  have hwell := Snapshot.orders_wellFormed "integer" "by_total"
  obtain ⟨x, hx, -⟩ := orders_drifts.1
  have hkept : (!notifying.settings.allows x && !notifying.settings.ignores x) = true := by
    simp [notifying, ofProject, DriftSettings.allows, DriftSettings.ignores]
  have hreported : x ∈ notifying.reported v now r := by
    have hload : notifying.baseline.load now r.tree = .ok (some (.orders "integer" "by_total")) :=
      load_keptProject hwell now
    have hlive : (v.analyze r.outside).2 = .ok (.orders "text" "totals") := rfl
    have hlog : NoMigration v := noMigration_always (.orders "text" "totals")
    rw [reported_eq (d := notifying) rfl rfl rfl hlog hlive hload
      (l := ["project", "drift-reports"]) rfl rfl]
    exact List.mem_filter.mpr ⟨List.mem_append_left _ hx, hkept⟩
  rcases writes_or_quiet notifying v now r with ⟨live, report, w, p, h⟩ | h
  · rw [h.reported_eq] at hreported
    have hdrifts := List.ne_nil_of_mem hreported
    obtain ⟨-, o, ho, hresult, hwarnings, htold⟩ := detect_notified h hdrifts rfl ha hnames hpost
    exact ⟨ha, hnames, hpost, live, report, w, p, h, hdrifts, o, ho, hresult, hwarnings, htold⟩
  · rw [reported, h.told] at hreported
    cases hreported

end Detector

end SchemaConcord
