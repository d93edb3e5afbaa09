import SchemaConcord.Drift.Fingerprint
import SchemaConcord.Proofs.Drift.Discrepancy
import SchemaConcord.Proofs.Json.RoundTrip

/-!
# Structure texts and structural drifts

The structure text of a schema sorts and serialises, the comparison looks names up. They agree: two schemas have one
text exactly when no drift between them is about a table, a column, a type or nullability
(`structureText_eq_iff`). Sorting by distinct names forgets nothing but the order, and the compact text of a value
tells the value.
-/

namespace SchemaConcord

open Text

/-- Whether a drift is about a table, a column, a column's type or its nullability. -/
def Drift.isStructural (d : Drift) : Bool :=
  match d.type, d.expected, d.actual with
  | .missingTable, .table _, _ => true
  | .extraTable, _, .table _ => true
  | .missingColumn, _, _ | .extraColumn, _, _ | .columnTypeMismatch, _, _ => true
  | .constraintMismatch, .value (.flag _), _ => true
  | _, _, _ => false

/-- Names tell the tables apart, and the columns of each table. -/
structure Snapshot.ColumnsDistinct (s : Snapshot) : Prop where
  tables : s.tableNames.Nodup
  columns : ∀ t ∈ s.tables, t.columnNames.Nodup

/-! ## Sorted by name -/

namespace Snapshot

variable {α β : Type} {name : α → String} {f : α → β}

theorem byName_perm (name : α → String) (l : List α) : (byName name l).Perm l := List.mergeSort_perm l _

theorem pairwise_byName (l : List α) : (byName name l).Pairwise fun a b => textLe (name a) (name b) = true :=
  List.pairwise_mergeSort (fun a b c => textLe_trans (name a) (name b) (name c))
    (fun a b => textLe_total (name a) (name b)) l

/-- Of two lists without repetition, sorted by what tells their entries apart, only the entries count. -/
theorem map_byName_eq_iff {l m : List α} (hl : (l.map name).Nodup) (hm : (m.map name).Nodup)
    (hf : ∀ a b, f a = f b → name a = name b) :
    (byName name l).map f = (byName name m).map f ↔ ∀ x, x ∈ l.map f ↔ x ∈ m.map f := by
  have hnodup : ∀ {l : List α}, (l.map name).Nodup → (l.map f).Nodup := by
    intro l hl
    refine List.Nodup.map_on (fun a ha b hb h => ?_) hl.of_map
    exact eq_of_name hl ha hb (hf a b h)
  rw [← List.perm_ext_iff_of_nodup (hnodup hl) (hnodup hm)]
  constructor
  · intro h
    exact ((byName_perm name l).map f).symm.trans (h ▸ (byName_perm name m).map f)
  · intro h
    -- One order on the entries themselves, read off any preimage.
    let le : β → β → Prop := fun x y => ∀ a b, f a = x → f b = y → textLe (name a) (name b) = true
    have hsorted : ∀ l : List α, ((byName name l).map f).Pairwise le := by
      intro l
      refine List.pairwise_map.mpr ((pairwise_byName l).imp fun {a b} hle c d hc hd => ?_)
      rw [hf c a hc, hf d b hd]
      exact hle
    have hperm := (((byName_perm name l).map f).trans h).trans ((byName_perm name m).map f).symm
    refine hperm.eq_of_pairwise (fun x y hx hy hxy hyx => ?_) (hsorted l) (hsorted m)
    have hy := hperm.mem_iff.mpr hy
    obtain ⟨a, ha, rfl⟩ := List.mem_map.mp hx
    obtain ⟨b, hb, rfl⟩ := List.mem_map.mp hy
    have hname := textLe_antisymm (hxy a b rfl rfl) (hyx b a rfl rfl)
    rw [eq_of_name hl ((byName_perm name l).mem_iff.mp ha) ((byName_perm name l).mem_iff.mp hb) hname]

/-- The same, said by names. -/
theorem map_byName_eq_iff_shared {l m : List α} (hl : (l.map name).Nodup) (hm : (m.map name).Nodup)
    (hf : ∀ a b, f a = f b → name a = name b) :
    (byName name l).map f = (byName name m).map f ↔ (∀ a ∈ l, name a ∈ m.map name) ∧ (∀ b ∈ m, name b ∈ l.map name) ∧
      ∀ a ∈ l, ∀ b ∈ m, name b = name a → f a = f b := by
  rw [map_byName_eq_iff hl hm hf]
  constructor
  · intro h
    refine ⟨fun a ha => ?_, fun b hb => ?_, fun a ha b hb hn => ?_⟩
    · obtain ⟨b, hb, he⟩ := List.mem_map.mp ((h (f a)).mp (List.mem_map_of_mem ha))
      exact List.mem_map.mpr ⟨b, hb, hf b a he⟩
    · obtain ⟨a, ha, he⟩ := List.mem_map.mp ((h (f b)).mpr (List.mem_map_of_mem hb))
      exact List.mem_map.mpr ⟨a, ha, hf a b he⟩
    · obtain ⟨c, hc, he⟩ := List.mem_map.mp ((h (f a)).mp (List.mem_map_of_mem ha))
      rw [← he, eq_of_name hm hc hb ((hf c a he).trans hn.symm)]
  · rintro ⟨hlm, hml, hs⟩ x
    simp only [List.mem_map]
    constructor
    · rintro ⟨a, ha, rfl⟩
      obtain ⟨b, hb, hn⟩ := List.mem_map.mp (hlm a ha)
      exact ⟨b, hb, (hs a ha b hb hn).symm⟩
    · rintro ⟨b, hb, rfl⟩
      obtain ⟨a, ha, hn⟩ := List.mem_map.mp (hml b hb)
      exact ⟨a, ha, hs a ha b hb hn.symm⟩

/-! ## Structure texts -/

theorem columnStructure_inj {c d : Column} :
    columnStructure c = columnStructure d ↔ c.name = d.name ∧ c.nullable = d.nullable ∧ c.type = d.type := by
  simp [columnStructure]

theorem tableStructure_inj {t u : Table} : tableStructure t = tableStructure u ↔ t.name = u.name ∧
    (byName Column.name t.columns).map columnStructure = (byName Column.name u.columns).map columnStructure := by
  simp [tableStructure, and_comm]

theorem storable_structure (s : Snapshot) :
    (Datum.list ((byName Table.name s.tables).map tableStructure)).Storable 4 := by
  refine .list fun v hv => ?_
  obtain ⟨t, _, rfl⟩ := List.mem_map.mp hv
  refine .record (by simp) fun f hf => ?_
  simp only [List.mem_cons, List.not_mem_nil, or_false] at hf
  rcases hf with rfl | rfl
  · refine .list fun w hw => ?_
    obtain ⟨c, _, rfl⟩ := List.mem_map.mp hw
    refine .record (by simp) fun g hg => ?_
    simp only [List.mem_cons, List.not_mem_nil, or_false] at hg
    rcases hg with rfl | rfl | rfl <;> constructor
  · exact .text _

theorem structureText_eq_iff_structure {a b : Snapshot} : a.structureText = b.structureText ↔
    (byName Table.name a.tables).map tableStructure = (byName Table.name b.tables).map tableStructure := by
  unfold structureText
  rw [Json.compact_inj (storable_structure a) (storable_structure b), Datum.list.injEq]

end Snapshot

/-! ## Structural drifts -/

theorem Column.structural_compare {object : String} {c d : Column} :
    (∀ x ∈ Column.compare object c d, x.isStructural = false) ↔ c.nullable = d.nullable ∧ c.type = d.type := by
  have hdefault : ∀ x ∈ Column.defaultDrift object c d, x.isStructural = false := by
    intro x hx
    rw [Column.defaultDrift, List.mem_ite_nil_left, List.mem_singleton] at hx
    rw [hx.2]
    cases c.default <;> rfl
  have htype : (∀ x ∈ Column.typeDrift object c d, x.isStructural = false) ↔ c.type = d.type := by
    unfold Column.typeDrift
    split <;> simp [*, Drift.isStructural]
  have hnull : (∀ x ∈ Column.nullDrift object c d, x.isStructural = false) ↔ c.nullable = d.nullable := by
    unfold Column.nullDrift
    split <;> simp [*, Drift.isStructural]
  simp only [Column.compare, List.forall_mem_append, htype, hnull]
  constructor
  · rintro ⟨⟨ht, hn⟩, _⟩
    exact ⟨hn, ht⟩
  · rintro ⟨hn, ht⟩
    exact ⟨⟨ht, hn⟩, hdefault⟩

/-- The drifts of a list without order, group by group. -/
theorem forall_diffNamed {α β : Type} {name : α → String} {l m : List α} {missing extra : α → β}
    {shared : α → α → List β} {p : β → Prop} :
    (∀ x ∈ diffNamed name l m missing extra shared, p x) ↔ (∀ a ∈ l, name a ∉ m.map name → p (missing a)) ∧
      (∀ b ∈ m, name b ∉ l.map name → p (extra b)) ∧
      ∀ a ∈ l, ∀ b ∈ m, name b = name a → ∀ x ∈ shared a b, p x := by
  simp only [mem_diffNamed]
  constructor
  · intro h
    refine ⟨fun a ha hn => ?_, fun b hb hn => ?_, fun a ha b hb hn x hx => ?_⟩
    · exact h _ (.inl ⟨a, ha, hn, rfl⟩)
    · exact h _ (.inr (.inl ⟨b, hb, hn, rfl⟩))
    · exact h x (.inr (.inr ⟨a, ha, b, hb, hn, hx⟩))
  · rintro ⟨hm, he, hs⟩ x (⟨a, ha, hn, rfl⟩ | ⟨b, hb, hn, rfl⟩ | ⟨a, ha, b, hb, hn, hx⟩)
    · exact hm a ha hn
    · exact he b hb hn
    · exact hs a ha b hb hn x hx

theorem Table.structural_compareColumns {t u : Table} (ht : t.columnNames.Nodup) (hu : u.columnNames.Nodup) :
    (∀ d ∈ Table.compareColumns t u, d.isStructural = false) ↔
      (Snapshot.byName Column.name t.columns).map Snapshot.columnStructure =
        (Snapshot.byName Column.name u.columns).map Snapshot.columnStructure := by
  have hmissing : ∀ (o : String) (c : Column), (c.missingDrift o).isStructural = true := fun _ _ => rfl
  have hextra : ∀ (o : String) (c : Column), (c.extraDrift o).isStructural = true := fun _ _ => rfl
  rw [Snapshot.map_byName_eq_iff_shared ht hu fun c d h => (Snapshot.columnStructure_inj.mp h).1]
  simp only [(Table.compareColumns_perm t hu).mem_iff, forall_diffNamed, Column.structural_compare,
    Snapshot.columnStructure_inj, hmissing, hextra, Bool.true_eq_false, imp_false, not_not]
  refine and_congr_right fun _ => and_congr_right fun _ => forall₄_congr fun c _ d _ => imp_congr_right fun hn => ?_
  rw [hn, and_iff_right rfl]

theorem Table.structural_compareConstraints (t u : Table) :
    ∀ d ∈ Table.compareConstraints t u, d.isStructural = false := by
  refine forall_compareNamed (fun n c => rfl) (fun n c => rfl) fun n a b d hd => ?_
  simp only [List.mem_ite_nil_left, List.mem_singleton] at hd
  rw [hd.2]
  rfl

theorem Table.structural_compare {t u : Table} (ht : t.columnNames.Nodup) (hu : u.columnNames.Nodup)
    (hn : u.name = t.name) :
    (∀ d ∈ Table.compare t u, d.isStructural = false) ↔ Snapshot.tableStructure t = Snapshot.tableStructure u := by
  rw [Table.compare, List.forall_mem_append, structural_compareColumns ht hu, Snapshot.tableStructure_inj]
  rw [and_iff_left (structural_compareConstraints t u), and_iff_right hn.symm]

namespace Snapshot

theorem structural_compareIndexes (tables : List String) (l m : List Index) :
    ∀ d ∈ compareIndexes tables l m, d.isStructural = false := by
  refine forall_compareNamed (fun n i => rfl) (fun n i => rfl) fun n i j d hd => ?_
  rw [List.mem_ite_nil_left, List.mem_singleton] at hd
  rw [hd.2]
  rfl

theorem structural_compareViews (l m : List View) : ∀ d ∈ compareViews l m, d.isStructural = false := by
  refine forall_compareNamed (fun n v => rfl) (fun n v => rfl) fun n v w d hd => ?_
  rw [List.mem_ite_nil_left, List.mem_singleton] at hd
  rw [hd.2]
  rfl

theorem structural_compareTables {a b : Snapshot} (ha : a.ColumnsDistinct) (hb : b.ColumnsDistinct) :
    (∀ d ∈ compareTables a b, d.isStructural = false) ↔
      (byName Table.name a.tables).map tableStructure = (byName Table.name b.tables).map tableStructure := by
  rw [map_byName_eq_iff_shared ha.tables hb.tables fun t u h => (tableStructure_inj.mp h).1]
  unfold compareTables
  simp only [(compareNamed_perm ha.tables hb.tables _ _ _).mem_iff, forall_diffNamed, Drift.isStructural,
    Bool.true_eq_false, imp_false, not_not]
  refine and_congr_right fun _ => and_congr_right fun _ => forall₄_congr fun t ht u hu => imp_congr_right fun hn => ?_
  exact Table.structural_compare (ha.columns t ht) (hb.columns u hu) hn

theorem structural_compare {a b : Snapshot} :
    (∀ d ∈ a.compare b, d.isStructural = false) ↔ ∀ d ∈ compareTables a b, d.isStructural = false := by
  rw [compare_eq, List.forall_mem_append, List.forall_mem_append, and_assoc]
  refine and_iff_left ⟨fun d hd => ?_, fun d hd => ?_⟩
  · obtain ⟨l, m, _, _, hd⟩ := mem_whenBoth.mp hd
    exact structural_compareIndexes _ l m d hd
  · obtain ⟨l, m, _, _, hd⟩ := mem_whenBoth.mp hd
    exact structural_compareViews l m d hd

theorem structureText_eq_iff {a b : Snapshot} (ha : a.ColumnsDistinct) (hb : b.ColumnsDistinct) :
    a.structureText = b.structureText ↔ ∀ d ∈ a.compare b, d.isStructural = false := by
  rw [structureText_eq_iff_structure, structural_compare, structural_compareTables ha hb]

theorem structureText_eq_iff_orders :
    (orders "integer" "by_total").ColumnsDistinct ∧ (orders "text" "totals").ColumnsDistinct ∧
      ((orders "integer" "by_total").structureText = (orders "text" "totals").structureText ↔
        ∀ d ∈ (orders "integer" "by_total").compare (orders "text" "totals"), d.isStructural = false) :=
  have h : ∀ totalType indexName, (orders totalType indexName).ColumnsDistinct := fun totalType indexName =>
    ⟨(orders_namesDistinct totalType indexName).tables, (orders_namesDistinct totalType indexName).columns⟩
  ⟨h _ _, h _ _, structureText_eq_iff (h _ _) (h _ _)⟩

end Snapshot

end SchemaConcord
