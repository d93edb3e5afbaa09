import SchemaConcord.Proofs.Drift.Run
import SchemaConcord.Proofs.Lists

/-!
# Warnings of a detection

Which warnings the parts of a run give. Those on the way to the report are about files, routes, forms and the baseline;
none is about a delivery.
-/

namespace SchemaConcord

open Text

def deliveryHead : String := "Drift notification failed: "

def isDeliveryWarning (w : String) : Bool := hasHead w deliveryHead

theorem isDeliveryWarning_append (error : String) : isDeliveryWarning (deliveryHead ++ error) = true := by
  rw [isDeliveryWarning, hasHead, String.toList_append, List.isPrefixOf_iff_prefix]
  exact List.prefix_append _ _

/-- A warning whose head begins otherwise is about something else. -/
theorem not_isDeliveryWarning {head : String} {c : Char} (h : head.toList.head? = some c) (hc : c ≠ 'D')
    (rest : String) : isDeliveryWarning (head ++ rest) = false := by
  obtain ⟨cs, hcs⟩ := List.head?_eq_some_iff.mp h
  have hD : deliveryHead.toList = 'D' :: "rift notification failed: ".toList := rfl
  rw [isDeliveryWarning, hasHead, String.toList_append, hcs, hD]
  simp [List.isPrefixOf, Ne.symm hc]

/-- None of the warnings is about a delivery. -/
def Undelivered (ws : List String) : Prop := ∀ w ∈ ws, isDeliveryWarning w = false

namespace Undelivered

theorem nil : Undelivered [] := nofun

theorem append {ws ws' : List String} (h : Undelivered ws) (h' : Undelivered ws') : Undelivered (ws ++ ws') :=
  fun w hw => (List.mem_append.mp hw).elim (h w) (h' w)

theorem singleton {head : String} {c : Char} (h : head.toList.head? = some c) (hc : c ≠ 'D') (rest : String) :
    Undelivered [head ++ rest] :=
  fun _ hw => List.mem_singleton.mp hw ▸ not_isDeliveryWarning h hc rest

end Undelivered

/-! ## Checks of the project -/

theorem undelivered_scanFiles {ε α : Type} {read : Path → FileReading ε α} {files : List Path} {items : List α}
    {warnings : List String} (h : scanFiles read files = .ok (items, warnings)) : Undelivered warnings := by
  induction files generalizing items warnings with
  | nil =>
    cases h
    exact .nil
  | cons p files ih =>
    unfold scanFiles at h
    cases hrest : scanFiles read files with
    | error f =>
      rw [hrest] at h
      cases hp : read p <;> rw [hp] at h <;> cases h
    | ok rest =>
      obtain ⟨others, more⟩ := rest
      rw [hrest] at h
      cases hp : read p with
      | broken f => rw [hp] at h; cases h
      | items l =>
        rw [hp] at h
        cases h
        exact ih hrest
      | skipped cause =>
        rw [hp] at h
        cases h
        have hskip : Undelivered ["Skipped " ++ p.text ++ ": " ++ cause.word] := by
          rw [String.append_assoc, String.append_assoc]
          exact .singleton rfl (by decide) _
        exact hskip.append (ih hrest)

theorem Snapshot.undelivered_checkRoutes (s : Snapshot) (routes : List Route) :
    Undelivered (s.checkRoutes routes).warnings := by
  intro w hw
  obtain ⟨r, -, hw⟩ := List.mem_flatMap.mp hw
  obtain ⟨p, -, hp⟩ := List.mem_filterMap.mp hw
  split at hp
  · split at hp
    · cases hp
      rw [String.append_assoc, String.append_assoc, String.append_assoc]
      exact not_isDeliveryWarning rfl (by decide) _
    · cases hp
  · cases hp

namespace RouteProject

variable {project : RouteProject} {s : Snapshot} {t : FileTree}

theorem undelivered_findings {f : RouteFindings} (h : project.findings s t = .ok f) : Undelivered f.warnings := by
  unfold findings routes at h
  obtain ⟨⟨found, warnings⟩, hroutes, h⟩ := bind_eq_ok h
  obtain ⟨files, -, hroutes⟩ := bind_eq_ok hroutes
  obtain ⟨⟨found', warnings'⟩, hscan, hroutes⟩ := bind_eq_ok hroutes
  cases hroutes
  cases h
  exact (undelivered_scanFiles hscan).append (s.undelivered_checkRoutes _)

theorem warnings_generate {f g : RouteFindings} (h : (project.generate s f t).2 = .ok g) : g.warnings = f.warnings := by
  unfold generate at h
  split at h
  · dsimp only at h
    cases hw : (FileTree.writeStubs (project.root.join (.parse project.settings.outputDirectory))
        (s.tablesOf f.missing) t).2 with
    | error fault => rw [hw] at h; cases h
    | ok paths =>
      rw [hw] at h
      cases h
      rfl
  · cases h
    rfl

theorem undelivered_validate (project : RouteProject) (s : Snapshot) (t : FileTree) :
    Undelivered (project.validate s t).2.warnings := by
  unfold validate
  cases hfound : project.findings s t with
  | error f => exact .nil
  | ok found =>
    dsimp only
    cases hgen : (project.generate s found t).2 with
    | error f => exact .nil
    | ok g =>
      show Undelivered g.warnings
      rw [warnings_generate hgen]
      exact undelivered_findings hfound

end RouteProject

theorem FormProject.undelivered_validate (project : FormProject) (s : Snapshot) (t : FileTree) :
    Undelivered (project.validate s t).warnings := by
  unfold validate
  cases hforms : project.forms t with
  | error f => exact .nil
  | ok found =>
    obtain ⟨forms, warnings⟩ := found
    unfold FormProject.forms at hforms
    obtain ⟨files, -, hforms⟩ := bind_eq_ok hforms
    obtain ⟨⟨forms', warnings'⟩, hscan, hforms⟩ := bind_eq_ok hforms
    cases hforms
    refine (undelivered_scanFiles hscan).append fun w hw => ?_
    obtain ⟨c, -, rfl⟩ := List.mem_map.mp hw
    rw [String.append_assoc]
    exact not_isDeliveryWarning rfl (by decide) _

/-! ## Parts of a run -/

namespace Detecting

variable {σ ε ε' α β : Type} {P : σ → List String → Prop}

/-- A part that begins with services and warnings as `P` says ends with such. -/
def Minds (P : σ → List String → Prop) (part : Detecting σ ε α) : Prop :=
  ∀ r, P r.outside r.warnings → P (part r).2.outside (part r).2.warnings

namespace Minds

theorem bind {part : Detecting σ ε α} {next : α → Detecting σ ε β} (hp : Minds P part) (hn : ∀ a, Minds P (next a)) :
    Minds P (part >>= next) := by
  intro r hr
  have hu := hp r hr
  rw [run_bind]
  cases hx : part r with
  | mk x u =>
    rw [hx] at hu
    cases x with
    | error e => exact hu
    | ok a => exact hn a u hu

theorem pure (a : α) : Minds P (Pure.pure a : Detecting σ ε α) := fun _ h => h

theorem throw (e : ε) : Minds P (MonadExcept.throw e : Detecting σ ε α) := fun _ h => h

theorem enter (s : DetectorState) : Minds P (enter s : Detecting σ ε Unit) := fun _ h => h

theorem note (a : DetectorAction) : Minds P (note a : Detecting σ ε Unit) := fun _ h => h

theorem onFiles (work : FileTree → FileTree × α) : Minds P (onFiles work : Detecting σ ε α) := fun _ h => h

/-- What follows on files may count on what the work gives. -/
theorem bind_onFiles {work : FileTree → FileTree × α} {next : α → Detecting σ ε β}
    (hn : ∀ t, Minds P (next (work t).2)) : Minds P (Detecting.onFiles work >>= next) := by
  intro r hr
  rw [run_bind, run_onFiles]
  exact hn r.tree _ hr

theorem settle (wrap : ε → ε') (result : Except ε α) : Minds P (settle wrap result : Detecting σ ε' α) :=
  fun _ h => h

theorem adapt {part : Detecting σ ε α} (wrap : ε → ε') (h : Minds P part) :
    Minds P (part.adapt wrap : Detecting σ ε' α) := by
  intro r hr
  rw [run_adapt]
  exact h r hr

theorem attempt {part : Detecting σ ε α} (h : Minds P part) :
    Minds P (attempt part : Detecting σ ε' (Except ε α)) :=
  fun _ hr => h _ hr

theorem ask (service : σ → σ × α) (h : ∀ s ws, P s ws → P (service s).1 ws) :
    Minds P (ask service : Detecting σ ε α) :=
  fun _ hr => h _ _ hr

theorem warn {new : List String} (h : ∀ s ws, P s ws → P s (ws ++ new)) : Minds P (warn new : Detecting σ ε Unit) :=
  fun _ hr => h _ _ hr

theorem forM (l : List α) {part : α → Detecting σ ε PUnit} (h : ∀ a, Minds P (part a)) : Minds P (l.forM part) := by
  induction l with
  | nil => exact .pure _
  | cons a l ih => exact .bind (h a) fun _ => ih

end Minds

end Detecting

namespace Detector

open Detecting

variable {σ ε : Type} {d : Detector} {v : Services σ}

/-- Parts that give no warnings about deliveries. -/
abbrev NoDelivery (part : Detecting σ ε α) : Prop := Minds (fun _ ws => Undelivered ws) part

theorem noDelivery_warn {new : List String} (h : Undelivered new) : NoDelivery (warn new : Detecting σ ε Unit) :=
  .warn fun _ _ hws => hws.append h

theorem noDelivery_analyze : NoDelivery (analyze v) :=
  .bind (.enter _) fun _ => .bind (.note _) fun _ => .bind (.ask _ fun _ _ h => h) fun _ => .settle _ _

theorem noDelivery_loadBaseline (now : Moment) : NoDelivery (d.loadBaseline now : Detecting σ _ _) := by
  unfold loadBaseline
  refine .bind (.enter _) fun _ => .bind (.note _) fun _ => .bind (.onFiles _) fun x => .bind (.settle _ x)
    fun found => ?_
  dsimp only
  split
  · refine .bind (noDelivery_warn ?_) fun _ => .pure _
    rw [String.append_assoc]
    exact .singleton rfl (by decide) _
  · exact .pure _

theorem noDelivery_hasMigration (before after : String) : NoDelivery (d.hasMigration v before after) := by
  unfold hasMigration
  split
  · refine .bind (.note _) fun _ => .bind (.ask _ fun _ _ h => h) fun answer => ?_
    split
    · exact .settle _ _
    · exact .pure _
  · exact .pure _

theorem noDelivery_schemaDrifts (live : Snapshot) (baseline : Option Snapshot) :
    NoDelivery (d.schemaDrifts v live baseline) := by
  cases baseline with
  | none => exact .pure _
  | some b =>
    refine .bind ?_ fun _ => .pure _
    unfold unrecordedChange
    split
    · exact .pure _
    · exact .bind (.adapt _ (noDelivery_hasMigration _ _)) fun _ => .pure _

theorem noDelivery_checkedDrifts {subject : String} {c : Char} (hsubject : subject.toList.head? = some c)
    (hc : c ≠ 'D') (drifts : α → List Drift) {o : Outcome α} (ho : Undelivered o.warnings) :
    NoDelivery (checkedDrifts subject drifts o : Detecting σ ε _) := by
  unfold checkedDrifts
  refine .bind (noDelivery_warn ho) fun _ => ?_
  split
  · exact .pure _
  · refine .bind (noDelivery_warn ?_) fun _ => .pure _
    rw [String.append_assoc]
    exact .singleton hsubject hc _

theorem noDelivery_routeDrifts (live : Snapshot) : NoDelivery (d.routeDrifts live : Detecting σ ε _) := by
  unfold routeDrifts
  split
  · exact .pure _
  · next project _ =>
    split
    · exact .bind (.note _) fun _ => .bind_onFiles fun t =>
        noDelivery_checkedDrifts rfl (by decide) _ (project.undelivered_validate live t)
    · exact .pure _

theorem noDelivery_formDrifts (live : Snapshot) : NoDelivery (d.formDrifts live : Detecting σ ε _) := by
  unfold formDrifts
  split
  · exact .pure _
  · next project _ =>
    split
    · exact .bind (.note _) fun _ => .bind_onFiles fun t =>
        noDelivery_checkedDrifts rfl (by decide) _ (project.undelivered_validate live t)
    · exact .pure _

theorem noDelivery_buildReport (now : Moment) : NoDelivery (d.buildReport v now) := by
  unfold buildReport
  exact .bind noDelivery_analyze fun live => .bind (noDelivery_loadBaseline now) fun baseline =>
    .bind (noDelivery_schemaDrifts live baseline) fun _ => .bind (.enter _) fun _ =>
    .bind (noDelivery_routeDrifts live) fun _ => .bind (noDelivery_formDrifts live) fun _ => .pure _

/-- A fix warns of the baseline only, and asks no service. -/
theorem minds_fix (live : Snapshot) (report : Report) (s : σ) :
    Minds (fun s' ws => s' = s ∧ Undelivered ws) (d.fix live report) := by
  unfold fix
  dsimp only
  split
  · exact .pure _
  · refine .bind (.attempt ?_) fun result => ?_
    · unfold replaceBaseline
      exact .bind (.enter _) fun _ => .bind (.note _) fun _ => .bind (.onFiles _) fun x => .settle _ x
    · split
      · refine .bind (.warn fun _ _ h => ⟨h.1, h.2.append ?_⟩) fun _ => .pure _
        exact .singleton rfl (by decide) _
      · exact .throw _
      · exact .bind (.forM _ fun _ => .note _) fun _ => .bind (.note _) fun _ => .pure _

end Detector

end SchemaConcord
