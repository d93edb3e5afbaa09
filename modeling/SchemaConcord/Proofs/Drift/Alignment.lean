import SchemaConcord.Proofs.Drift.Notification
import SchemaConcord.Proofs.Drift.Origin

/-!
# Drifts and their suggestions

Every drift has a suggestion, for the same object and with a statement just when it is a migration. A drift of little
weight between two schemas is settled by the next baseline, so after a fix the count that is told is the number of
drifts of little weight that are not about forms (`Detector.suggestions_aligned`).
-/

namespace SchemaConcord

open Detecting

/-- A suggestion is for the object of a drift, and carries a statement just when it is a migration. -/
structure Suggestion.Fits (s : Suggestion) (d : Drift) : Prop where
  object : s.object = d.object
  migration : s.kind = .migration → ∃ sql, s.sql = some sql ∧ sql ≠ ""
  other : s.kind ≠ .migration → s.sql = none

namespace Drift

variable {d : Drift}

theorem fits_migrate {description sql : String} {impact : List String} (h : sql ≠ "") :
    (d.migrate description sql impact).Fits d :=
  ⟨rfl, fun _ => ⟨sql, rfl, h⟩, fun hkind => absurd rfl hkind⟩

theorem fits_accept {description : String} : (d.accept description).Fits d :=
  ⟨rfl, nofun, fun _ => rfl⟩

theorem fits_codeChange {description : String} {impact : List String} :
    Suggestion.Fits ⟨.codeChange, d.object, description, none, none, impact⟩ d :=
  ⟨rfl, nofun, fun _ => rfl⟩

theorem fits_missingTableRemedy (d : Drift) : d.missingTableRemedy.Fits d := by
  unfold missingTableRemedy
  split
  · split
    · exact fits_accept
    · exact fits_migrate (by simp)
  · exact fits_migrate (by unfold Table.createSql; simp)
  · exact fits_accept

theorem fits_missingColumnRemedy (d : Drift) : d.missingColumnRemedy.Fits d := by
  unfold missingColumnRemedy
  dsimp only
  split
  · exact fits_migrate (by simp)
  · exact fits_accept

theorem fits_constraintRemedy (c : Constraint) : (d.constraintRemedy c).Fits d := by
  unfold constraintRemedy Constraint.addSql?
  dsimp only
  cases c.clause? with
  | none => exact fits_accept
  | some clause =>
    apply fits_migrate
    split <;> simp

theorem fits_constraintMismatchRemedy (d : Drift) : d.constraintMismatchRemedy.Fits d := by
  unfold constraintMismatchRemedy
  split
  · exact fits_migrate (by simp)
  · exact fits_accept
  · exact fits_accept
  · exact fits_constraintRemedy _
  · exact fits_accept
  · split
    · exact fits_codeChange
    · exact fits_accept

theorem fits_indexRemedy (d : Drift) : d.indexRemedy.Fits d := by
  unfold indexRemedy
  split
  · split
    · exact fits_migrate (by unfold Index.createSql; simp)
    · exact fits_accept
  · exact fits_accept

theorem fits_suggest (d : Drift) : d.suggest.Fits d := by
  unfold suggest
  cases d.type with
  | missingTable => exact d.fits_missingTableRemedy
  | missingColumn => exact d.fits_missingColumnRemedy
  | columnTypeMismatch => exact fits_migrate (by simp)
  | constraintMismatch => exact d.fits_constraintMismatchRemedy
  | indexMismatch => exact d.fits_indexRemedy
  | extraTable | extraColumn => exact fits_accept
  | routeMismatch | formFieldMismatch => exact fits_codeChange

/-! ## Drifts of little weight -/

/-- A part of a table has a dot in its name, so it is not taken for the whole schema. -/
theorem part_ne_wholeSchema (t n : String) : t ++ "." ++ n ≠ wholeSchema := by
  intro h
  have hdot : '.' ∈ wholeSchema.toList := by
    rw [← h]
    simp
  exact absurd hdot (by decide)

theorem kind_defaultRemedy {t n : String} {a b : Option String} (hobject : d.object = t ++ "." ++ n)
    (hexpected : d.expected = .value (Datum.ofOption .text a)) (hactual : d.actual = .value (Datum.ofOption .text b)) :
    d.constraintMismatchRemedy.kind = .schemaUpdate := by
  unfold constraintMismatchRemedy
  rw [hexpected, hactual, hobject, if_neg (part_ne_wholeSchema t n)]
  cases a <;> rfl

end Drift

/-- A difference of little weight is one that the next baseline takes over. -/
theorem Discrepancy.kind_of_low {x : Discrepancy} {d : Drift} (h : x.finding = d.finding) (hlow : d.severity = .low) :
    d.suggest.kind = .schemaUpdate := by
  obtain ⟨type, severity, object, expected, actual, message⟩ := d
  cases x
  all_goals
    simp only [Discrepancy.finding, Drift.finding, Finding.mk.injEq] at h
    obtain ⟨rfl, hseverity, rfl, rfl, rfl⟩ := h
    obtain rfl : severity = .low := hlow
  case columnDefault n a b => exact Drift.kind_defaultRemedy rfl rfl rfl
  case columnNull n a b =>
    cases hnull : b.nullable <;> rw [hnull] at hseverity <;> cases hseverity
  case extraIndex | extraView => rfl
  all_goals cases hseverity

theorem Discrepancy.type_ne_form {x : Discrepancy} : x.finding.type ≠ .formFieldMismatch := by
  cases x <;> nofun

namespace Snapshot

variable {e a : Snapshot} {x : Drift}

theorem kind_of_low (h : x ∈ e.compare a) (hlow : x.severity = .low) : x.suggest.kind = .schemaUpdate := by
  obtain ⟨y, -, hy⟩ := exists_origin h
  exact Discrepancy.kind_of_low hy hlow

theorem type_ne_form (h : x ∈ e.compare a) : x.type ≠ .formFieldMismatch := by
  obtain ⟨y, -, hy⟩ := exists_origin h
  have htype : y.finding.type = x.type := congrArg Finding.type hy
  exact htype ▸ Discrepancy.type_ne_form

end Snapshot

theorem RouteFindings.not_low {f : RouteFindings} {x : Drift} (h : x ∈ f.drifts) : x.severity ≠ .low := by
  rcases List.mem_append.mp h with h | h <;> obtain ⟨_, -, rfl⟩ := List.mem_map.mp h <;> nofun

/-! ## Whole detections -/

namespace Detector

variable {σ : Type} {d : Detector} {v : Services σ} {r : DetectorRun σ} {now : Moment} {live : Snapshot}
  {report : Report} {w : FileTree} {p : Path}

theorem yields_buildReport (now : Moment) :
    Yields (fun a => a.1.suggestions = a.1.drifts.map Drift.suggest) (d.buildReport v now) := by
  unfold buildReport
  exact .bind fun _ => .bind fun _ => .bind fun _ => .bind fun _ => .bind fun _ => .bind fun _ => .pure rfl

/-- What may be fixed in a report is what weighs little, forms apart. -/
theorem isFixable_iff (h : (d.buildReport v now r).1 = .ok (report, live)) {x : Drift} (hx : x ∈ report.drifts) :
    x.isFixable = true ↔ x.severity = .low ∧ x.type ≠ .formFieldMismatch := by
  obtain ⟨-, baseline, ofSchema, ofRoutes, ofForms, -, ⟨u, hu⟩, -, -, hdrifts, ⟨_, hroutes⟩, _, hforms⟩ :=
    buildReport_ok h
  rw [hdrifts] at hx
  have hheavy : ∀ {y : Drift}, y.severity ≠ .low →
      (y.isFixable = true ↔ y.severity = .low ∧ y.type ≠ .formFieldMismatch) := by
    intro y hy
    simp [Drift.isFixable, hy]
  rcases List.mem_append.mp (List.mem_filter.mp hx).1 with hx | hx
  · rcases List.mem_append.mp hx with hx | hx
    · have hx := schemaDrifts_subset hu x hx
      cases baseline with
      | none => cases hx
      | some b =>
        rcases List.mem_append.mp hx with hx | hx
        · by_cases hlow : x.severity = .low
          · simp [Drift.isFixable, hlow, Snapshot.kind_of_low hx hlow, Snapshot.type_ne_form hx]
          · exact hheavy hlow
        · split at hx
          · cases hx
          · obtain rfl := List.mem_singleton.mp hx
            apply hheavy
            intro hlow
            cases hlow
    · exact hheavy (yields_routeDrifts_of (fun _ _ => RouteFindings.not_low) live _ _ hroutes x hx)
  · have htype := yields_formDrifts live _ _ hforms x hx
    rw [Drift.not_isFixable (.inr htype)]
    simp [htype]

/-- What an attempt to fix tells that it fixed, when the baseline can be saved. -/
theorem fix_ok {u : DetectorRun σ} {n : Nat} (h : (d.fix live report u).1 = .ok n)
    (hsave : (∃ x ∈ report.drifts, x.isFixable = true) → (d.baseline.save live u.tree).2 = .ok ()) :
    n = report.drifts.countP Drift.isFixable := by
  rw [List.countP_eq_length_filter]
  unfold fix at h
  by_cases hf : (report.drifts.filter Drift.isFixable).isEmpty
  · simp only [if_pos hf] at h
    rw [List.isEmpty_iff.mp hf]
    cases h
    rfl
  · have hsome : ∃ x ∈ report.drifts, x.isFixable = true := by
      rw [List.isEmpty_iff, List.filter_eq_nil_iff] at hf
      simpa using hf
    rw [if_neg hf, run_bind, attempt_save, hsave hsome] at h
    obtain ⟨u', hu', -, -⟩ := run_emit_all (ε := DetectorFault) (report.drifts.filter Drift.isFixable)
      { u with
        state := .idle, tree := (d.baseline.save live u.tree).1, trace := u.trace ++ [(.fixing, .saveBaseline)] }
    dsimp only at h
    rw [run_bind, hu'] at h
    cases h
    rfl

theorem finish_ok {u : DetectorRun σ} {o : Outcome Report} (h : (d.finish v live report p u).1 = .ok o) :
    ∃ fixed, (∃ u' : DetectorRun σ, u'.tree = u.tree ∧ (d.maybeFix live report u').1 = .ok fixed) ∧
      o.metadata.lookup "auto_fixed" = some (.ofNat fixed) := by
  obtain ⟨u', htree, -, -, hrun⟩ := run_finish (d := d) (v := v) (r := u) live report p
  obtain ⟨r', hr⟩ : ∃ r', d.finish v live report p u = (.ok o, r') := ⟨_, Prod.ext h rfl⟩
  rw [hrun] at hr
  obtain ⟨fixed, w, hfix, hr⟩ := run_bind_ok hr
  obtain ⟨_, w', -, hr⟩ := run_bind_ok hr
  cases hr
  exact ⟨fixed, ⟨u', htree, by rw [hfix]⟩, rfl⟩

/-- Every drift has a suggestion that fits it, and one of little weight between schemas is a schema update. So the
suggestions of a report are those of its drifts, in order, and after a fix the count of what was fixed is that of the
drifts that weigh little, forms apart. -/
theorem suggestions_aligned (d : Detector) (v : Services σ) (now : Moment) (r : DetectorRun σ) :
    (∀ x : Drift, x.suggest.Fits x) ∧
    (∀ (e a : Snapshot), ∀ x ∈ e.compare a, x.severity = .low → x.suggest.kind = .schemaUpdate) ∧
    ∀ o report, (d.detect v now r).1 = .ok o → o.result = .ok report →
      report.suggestions = report.drifts.map Drift.suggest ∧
      (d.settings.enabled = true → d.settings.autoFix = true →
        ((∃ x ∈ report.drifts, x.severity = .low ∧ x.type ≠ .formFieldMismatch) → d.Saves v now r) →
        o.metadata.lookup "auto_fixed" =
          some (.ofNat (report.drifts.countP fun x => x.severity = .low ∧ x.type ≠ .formFieldMismatch))) := by
  refine ⟨Drift.fits_suggest, fun e a x => Snapshot.kind_of_low, ?_⟩
  intro o report ho hreport
  by_cases henabled : d.settings.enabled = true
  · obtain ⟨live, w, p, h⟩ := writes_of_ok henabled ho hreport
    refine ⟨yields_buildReport now _ _ h.built, fun _ hauto hsaves => ?_⟩
    have hcount : report.drifts.countP Drift.isFixable =
        report.drifts.countP fun x => x.severity = .low ∧ x.type ≠ .formFieldMismatch := by
      apply List.countP_congr
      intro x hx
      rw [isFixable_iff h.built hx, decide_eq_true_iff]
    obtain ⟨u, hdetect, htree, -⟩ := finish_of_written h.enabled h.built h.written
    rw [hdetect] at ho
    obtain ⟨fixed, ⟨u', htree', hfix⟩, hlookup⟩ := finish_ok ho
    rw [hlookup, ← hcount]
    rw [maybeFix, if_pos hauto] at hfix
    rw [fix_ok hfix]
    rintro ⟨x, hx, hfixable⟩
    rw [htree', htree]
    exact (h.saves_iff.mp (hsaves ⟨x, hx, (isFixable_iff h.built hx).mp hfixable⟩)).2.2
  · rw [run_detect_disabled (Bool.eq_false_iff.mpr henabled)] at ho
    cases ho
    cases hreport
    exact ⟨rfl, fun h => absurd h henabled⟩

/-- Of the drifts that came with another type and another index, those of the indexes are fixed. -/
theorem suggestions_aligned_orders :
    let v := Services.always (.orders "text" "totals")
    let r := keptRun (.orders "integer" "by_total")
    let now : Moment := ⟨2024, 5, 2, 8, 0, 0, 0, some 0⟩
    ∃ o report, (ofProject.detect v now r).1 = .ok o ∧ o.result = .ok report ∧
      report.suggestions = report.drifts.map Drift.suggest ∧
      ∃ n, 0 < n ∧ o.metadata.lookup "auto_fixed" = some (.ofNat n) := by
  intro v r now
  obtain ⟨-, y, hy, hfixable⟩ := orders_drifts
  have hreported : y ∈ ofProject.reported v now r :=
    reported_keptRun (Snapshot.orders_wellFormed "integer" "by_total") now hy
  have hsaves : ofProject.Saves v now r :=
    saves_of_fixable rfl rfl rfl (canSave_keptProject _ (.orders "text" "totals")) ⟨y, hreported, hfixable⟩
  rcases writes_or_quiet ofProject v now r with ⟨live, report, w, p, h⟩ | h
  · rw [h.reported_eq] at hreported
    obtain ⟨u, -, fixed, hdetect, -⟩ := h.before_tell (by decide)
    obtain ⟨-, -, hall⟩ := suggestions_aligned ofProject v now r
    have ho := congrArg Prod.fst hdetect
    obtain ⟨hsuggestions, hfixed⟩ := hall _ report ho rfl
    refine ⟨_, report, ho, rfl, hsuggestions, _, ?_, hfixed rfl rfl fun _ => hsaves⟩
    apply List.countP_pos_iff.mpr
    exact ⟨y, hreported, decide_eq_true ((isFixable_iff h.built hreported).mp hfixable)⟩
  · rw [reported, h.told] at hreported
    cases hreported

end Detector

end SchemaConcord
