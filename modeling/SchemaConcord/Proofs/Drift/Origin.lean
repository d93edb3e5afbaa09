import SchemaConcord.Proofs.Drift.Discrepancy

/-!
# Where a drift comes from

Every drift of a comparison is the finding of a discrepancy (`Snapshot.exists_origin`), also when names are not distinct:
then entries that a later one of their name hides are left out, and nothing is made up for them.
-/

namespace SchemaConcord

section
variable {α β : Type} {name : α → String} {expected actual : List α}

theorem not_mem_of_lastNamed? {l : List α} {n : String} (h : lastNamed? name l n = none) : n ∉ l.map name := by
  intro hn
  obtain ⟨a, ha, rfl⟩ := List.mem_map.mp hn
  have := List.find?_eq_none.mp h a (List.mem_reverse.mpr ha)
  simp at this

theorem diffNamed_subset {missing extra : α → β} {shared shared' : α → α → List β}
    (h : ∀ a ∈ expected, ∀ b ∈ actual, name b = name a → shared a b ⊆ shared' a b) :
    diffNamed name expected actual missing extra shared ⊆ diffNamed name expected actual missing extra shared' := by
  intro x hx
  rcases mem_diffNamed.mp hx with hx | hx | ⟨a, ha, b, hb, hn, hx⟩
  · exact mem_diffNamed.mpr (.inl hx)
  · exact mem_diffNamed.mpr (.inr (.inl hx))
  · exact mem_diffNamed.mpr (.inr (.inr ⟨a, ha, b, hb, hn, h a ha b hb hn hx⟩))

theorem compareNamed_subset (missing extra : String → α → Drift) (shared : String → α → α → List Drift) :
    compareNamed name expected actual missing extra shared ⊆
      diffNamed name expected actual (fun a => missing (name a) a) (fun a => extra (name a) a)
        fun a b => shared (name a) a b := fun _ hd => mem_diffNamed.mpr (mem_compareNamed hd)

theorem map_whenBoth_subset {γ δ : Type} {f : α → α → List β} {g : α → α → List γ} {r : β → δ} {s : γ → δ}
    {o p : Option α} (h : ∀ a b, (f a b).map r ⊆ (g a b).map s) : (whenBoth f o p).map r ⊆ (whenBoth g o p).map s := by
  cases o with
  | none => exact fun _ hx => nomatch hx
  | some a =>
    cases p with
    | none => exact fun _ hx => nomatch hx
    | some b => exact h a b

end

/-! ## Tables -/

namespace Table

variable {t u : Table}

theorem compareColumns_subset (hn : u.name = t.name) : compareColumns t u ⊆
    diffNamed Column.name t.columns u.columns (fun c => c.missingDrift (t.name ++ "." ++ c.name))
      (fun c => c.extraDrift (t.name ++ "." ++ c.name)) fun c d => Column.compare (t.name ++ "." ++ c.name) c d := by
  intro d hd
  refine mem_diffNamed.mpr ?_
  rcases List.mem_append.mp hd with hd | hd
  · obtain ⟨c, hc, hd⟩ := List.mem_flatMap.mp hd
    cases hlive : lastNamed? Column.name u.columns c.name with
    | none =>
      have hd : d = c.missingDrift (t.name ++ "." ++ c.name) := by simpa [hlive] using hd
      exact .inl ⟨c, hc, not_mem_of_lastNamed? hlive, hd⟩
    | some live =>
      obtain ⟨hmem, hname⟩ := lastNamed?_mem hlive
      exact .inr (.inr ⟨c, hc, live, hmem, hname, by simpa [hlive] using hd⟩)
  · obtain ⟨c, hc, rfl⟩ := List.mem_map.mp hd
    obtain ⟨hc, hnew⟩ := List.mem_filter.mp hc
    have hnew : c.name ∉ t.columnNames := by simpa using hnew
    exact .inr (.inl ⟨c, hc, hnew, by rw [hn]⟩)

theorem map_compareColumns_subset (hn : u.name = t.name) : (compareColumns t u).map Drift.finding ⊆
    (diffNamed Column.name t.columns u.columns (.missingColumn t.name) (.extraColumn t.name)
      (Column.discrepancies t.name)).map Discrepancy.finding := by
  refine List.Subset.trans (List.map_subset _ (compareColumns_subset hn)) (List.Perm.of_eq ?_).subset
  simp only [map_diffNamed, Column.map_compare]
  rfl

theorem map_compareConstraints_subset (hn : u.name = t.name) : (compareConstraints t u).map Drift.finding ⊆
    (diffNamed Constraint.name t.constraints u.constraints (.missingConstraint t.name) (.extraConstraint t.name)
      fun c d => if c.kind = d.kind ∧ c.columns = d.columns ∧ c.definition = d.definition then [] else
        [.constraint t.name c d]).map Discrepancy.finding := by
  refine List.Subset.trans (List.map_subset _ (compareNamed_subset ..)) (List.Perm.of_eq ?_).subset
  simp only [map_diffNamed]
  congr 1
  · funext c
    simp only [Function.comp_apply, Drift.finding, Discrepancy.finding, hn]
  · funext c d
    split <;> rfl

theorem map_compare_subset (hn : u.name = t.name) :
    (Table.compare t u).map Drift.finding ⊆ (t.discrepancies u).map Discrepancy.finding := by
  unfold Table.compare Table.discrepancies
  rw [List.map_append, List.map_append]
  refine List.append_subset.mpr ⟨?_, ?_⟩
  · exact List.Subset.trans (map_compareColumns_subset hn) (List.subset_append_left ..)
  · exact List.Subset.trans (map_compareConstraints_subset hn) (List.subset_append_right ..)

end Table

/-! ## Schemas -/

namespace Snapshot

variable {e a : Snapshot}

theorem map_compareTables_subset : (compareTables e a).map Drift.finding ⊆
    (diffNamed Table.name e.tables a.tables .missingTable .extraTable Table.discrepancies).map
      Discrepancy.finding := by
  refine List.Subset.trans (List.map_subset _ (compareNamed_subset ..)) ?_
  simp only [map_diffNamed]
  exact diffNamed_subset fun t _ u _ hn => Table.map_compare_subset hn

theorem map_compareIndexes_subset (tables : List String) (l m : List Index) :
    (compareIndexes tables l m).map Drift.finding ⊆ (indexDiscrepancies tables l m).map Discrepancy.finding := by
  refine List.Subset.trans (List.map_subset _ (compareNamed_subset ..)) (List.Perm.of_eq ?_).subset
  simp only [indexDiscrepancies, map_diffNamed]
  congr 1
  funext i j
  split <;> rfl

theorem map_compareViews_subset (l m : List View) :
    (compareViews l m).map Drift.finding ⊆ (viewDiscrepancies l m).map Discrepancy.finding := by
  refine List.Subset.trans (List.map_subset _ (compareNamed_subset ..)) (List.Perm.of_eq ?_).subset
  simp only [viewDiscrepancies, map_diffNamed]
  congr 1
  funext v w
  split <;> rfl

theorem exists_origin {d : Drift} (h : d ∈ e.compare a) : ∃ x, e.Differs a x ∧ x.finding = d.finding := by
  have hall : (e.compare a).map Drift.finding ⊆ (e.discrepancies a).map Discrepancy.finding := by
    rw [compare_eq, discrepancies, List.map_append, List.map_append, List.map_append, List.map_append]
    refine List.append_subset.mpr ⟨List.append_subset.mpr ⟨?_, ?_⟩, ?_⟩
    · exact List.Subset.trans map_compareTables_subset
        (List.subset_append_of_subset_left _ (List.subset_append_left ..))
    · exact List.Subset.trans (map_whenBoth_subset (map_compareIndexes_subset _))
        (List.subset_append_of_subset_left _ (List.subset_append_right ..))
    · exact List.Subset.trans (map_whenBoth_subset map_compareViews_subset) (List.subset_append_right ..)
  obtain ⟨x, hx, hd⟩ := List.mem_map.mp (hall (List.mem_map_of_mem h))
  exact ⟨x, mem_discrepancies.mp hx, hd⟩

end Snapshot

end SchemaConcord
