import SchemaConcord.Proofs.Drift.Named

/-!
# Discrepancies

`Snapshot.Differs` says what a single discrepancy of a live schema from a baseline is, without lists or their order.
When names are distinct the drifts of `Snapshot.compare` are the findings of the discrepancies, one for each
(`compare_perm_findings`).
-/

namespace SchemaConcord

/-- What a drift says, without its message. -/
structure Finding where
  type : DriftType
  severity : Severity
  object : String
  expected : Side
  actual : Side
  deriving DecidableEq, Repr

def Drift.finding (d : Drift) : Finding := ⟨d.type, d.severity, d.object, d.expected, d.actual⟩

/-- One thing in which two schemas differ; parts of a table come with the table's name. -/
inductive Discrepancy where
  | missingTable (t : Table)
  | extraTable (t : Table)
  | missingColumn (table : String) (c : Column)
  | extraColumn (table : String) (c : Column)
  | columnType (table : String) (before after : Column)
  | columnNull (table : String) (before after : Column)
  | columnDefault (table : String) (before after : Column)
  | missingConstraint (table : String) (c : Constraint)
  | extraConstraint (table : String) (c : Constraint)
  | constraint (table : String) (before after : Constraint)
  | missingIndex (i : Index)
  | extraIndex (i : Index)
  | index (before after : Index)
  | missingView (v : View)
  | extraView (v : View)
  | view (before after : View)
  deriving DecidableEq, Repr

def Discrepancy.finding : Discrepancy → Finding
  | .missingTable t => ⟨.missingTable, .high, t.name, .table t, .absent⟩
  | .extraTable t => ⟨.extraTable, .medium, t.name, .absent, .table t⟩
  | .missingColumn n c => ⟨.missingColumn, .high, n ++ "." ++ c.name, .column c, .absent⟩
  | .extraColumn n c => ⟨.extraColumn, .medium, n ++ "." ++ c.name, .absent, .column c⟩
  | .columnType n a b => ⟨.columnTypeMismatch, .high, n ++ "." ++ a.name, .text a.type, .text b.type⟩
  | .columnNull n a b =>
    ⟨.constraintMismatch, if b.nullable then .medium else .high, n ++ "." ++ a.name, .value (.flag a.nullable),
      .value (.flag b.nullable)⟩
  | .columnDefault n a b =>
    ⟨.constraintMismatch, .low, n ++ "." ++ a.name, .value (Datum.ofOption .text a.default),
      .value (Datum.ofOption .text b.default)⟩
  | .missingConstraint n c => ⟨.constraintMismatch, .high, n ++ "." ++ c.name, .constraint c, .absent⟩
  | .extraConstraint n c => ⟨.constraintMismatch, .medium, n ++ "." ++ c.name, .absent, .constraint c⟩
  | .constraint n a b => ⟨.constraintMismatch, .medium, n ++ "." ++ a.name, .constraint a, .constraint b⟩
  | .missingIndex i => ⟨.indexMismatch, .medium, i.key, .index i, .absent⟩
  | .extraIndex i => ⟨.indexMismatch, .low, i.key, .absent, .index i⟩
  | .index a b => ⟨.indexMismatch, .medium, a.key, .index a, .index b⟩
  | .missingView v => ⟨.missingTable, .medium, v.name, .view v, .absent⟩
  | .extraView v => ⟨.extraTable, .low, v.name, .absent, .view v⟩
  | .view a b => ⟨.constraintMismatch, .medium, a.name, .view a, .view b⟩

/-! ## When a discrepancy holds -/

namespace Snapshot

/-- Two tables of one name, one of each schema. -/
def Pairs (e a : Snapshot) (n : String) (t u : Table) : Prop := t ∈ e.tables ∧ u ∈ a.tables ∧ t.name = n ∧ u.name = n

def Shares (e a : Snapshot) (n : String) : Prop := n ∈ e.tableNames ∧ n ∈ a.tableNames

def Differs (e a : Snapshot) : Discrepancy → Prop
  | .missingTable t => t ∈ e.tables ∧ t.name ∉ a.tableNames
  | .extraTable t => t ∈ a.tables ∧ t.name ∉ e.tableNames
  | .missingColumn n c => ∃ t u, e.Pairs a n t u ∧ c ∈ t.columns ∧ c.name ∉ u.columnNames
  | .extraColumn n c => ∃ t u, e.Pairs a n t u ∧ c ∈ u.columns ∧ c.name ∉ t.columnNames
  | .columnType n c d =>
    ∃ t u, e.Pairs a n t u ∧ c ∈ t.columns ∧ d ∈ u.columns ∧ d.name = c.name ∧ c.type ≠ d.type
  | .columnNull n c d =>
    ∃ t u, e.Pairs a n t u ∧ c ∈ t.columns ∧ d ∈ u.columns ∧ d.name = c.name ∧ c.nullable ≠ d.nullable
  | .columnDefault n c d =>
    ∃ t u, e.Pairs a n t u ∧ c ∈ t.columns ∧ d ∈ u.columns ∧ d.name = c.name ∧ c.default ≠ d.default
  | .missingConstraint n c => ∃ t u, e.Pairs a n t u ∧ c ∈ t.constraints ∧ c.name ∉ u.constraints.map (·.name)
  | .extraConstraint n c => ∃ t u, e.Pairs a n t u ∧ c ∈ u.constraints ∧ c.name ∉ t.constraints.map (·.name)
  | .constraint n c d =>
    ∃ t u, e.Pairs a n t u ∧ c ∈ t.constraints ∧ d ∈ u.constraints ∧ d.name = c.name ∧
      (c.kind ≠ d.kind ∨ c.columns ≠ d.columns ∨ c.definition ≠ d.definition)
  | .missingIndex i =>
    ∃ is js, e.indexes = some is ∧ a.indexes = some js ∧ i ∈ is ∧ e.Shares a i.table ∧
      ∀ j ∈ js, e.Shares a j.table → j.key ≠ i.key
  | .extraIndex j =>
    ∃ is js, e.indexes = some is ∧ a.indexes = some js ∧ j ∈ js ∧ e.Shares a j.table ∧
      ∀ i ∈ is, e.Shares a i.table → i.key ≠ j.key
  | .index i j =>
    ∃ is js, e.indexes = some is ∧ a.indexes = some js ∧ i ∈ is ∧ e.Shares a i.table ∧ j ∈ js ∧
      e.Shares a j.table ∧ j.key = i.key ∧ (i.columns ≠ j.columns ∨ i.unique ≠ j.unique)
  | .missingView v =>
    ∃ vs ws, e.views = some vs ∧ a.views = some ws ∧ v ∈ vs ∧ v.name ∉ ws.map (·.name)
  | .extraView w =>
    ∃ vs ws, e.views = some vs ∧ a.views = some ws ∧ w ∈ ws ∧ w.name ∉ vs.map (·.name)
  | .view v w =>
    ∃ vs ws, e.views = some vs ∧ a.views = some ws ∧ v ∈ vs ∧ w ∈ ws ∧ w.name = v.name ∧
      v.definition ≠ w.definition

/-- Names tell the parts of a schema apart: tables, the columns and constraints of a table, indexes with their table,
views. -/
structure NamesDistinct (s : Snapshot) : Prop where
  tables : s.tableNames.Nodup
  columns : ∀ t ∈ s.tables, t.columnNames.Nodup
  constraints : ∀ t ∈ s.tables, (t.constraints.map (·.name)).Nodup
  indexes : ∀ l, s.indexes = some l → (l.map (·.key)).Nodup
  views : ∀ l, s.views = some l → (l.map (·.name)).Nodup

end Snapshot

/-! ## The list of all discrepancies -/

/-- What two lists differ in when both are there. -/
def whenBoth {α β : Type} (f : α → α → List β) : Option α → Option α → List β
  | some a, some b => f a b
  | _, _ => []

def Column.discrepancies (table : String) (c d : Column) : List Discrepancy :=
  (if c.type = d.type then [] else [.columnType table c d]) ++
    (if c.nullable = d.nullable then [] else [.columnNull table c d]) ++
    (if c.default = d.default then [] else [.columnDefault table c d])

def Table.discrepancies (t u : Table) : List Discrepancy :=
  diffNamed Column.name t.columns u.columns (.missingColumn t.name) (.extraColumn t.name)
    (Column.discrepancies t.name) ++
  diffNamed Constraint.name t.constraints u.constraints (.missingConstraint t.name) (.extraConstraint t.name)
    fun c d => if c.kind = d.kind ∧ c.columns = d.columns ∧ c.definition = d.definition then [] else
      [.constraint t.name c d]

namespace Snapshot

def indexDiscrepancies (tables : List String) (l m : List Index) : List Discrepancy :=
  diffNamed Index.key (l.filter (tables.contains ·.table)) (m.filter (tables.contains ·.table)) .missingIndex
    .extraIndex
    fun i j => if i.columns = j.columns ∧ i.unique = j.unique then [] else [.index i j]

def viewDiscrepancies (l m : List View) : List Discrepancy :=
  diffNamed View.name l m .missingView .extraView fun v w => if v.definition = w.definition then [] else [.view v w]

def discrepancies (e a : Snapshot) : List Discrepancy :=
  diffNamed Table.name e.tables a.tables .missingTable .extraTable Table.discrepancies ++
    whenBoth (indexDiscrepancies (e.tableNames.filter a.tableNames.contains)) e.indexes a.indexes ++
    whenBoth viewDiscrepancies e.views a.views

end Snapshot

theorem mem_whenBoth {α β : Type} {f : α → α → List β} {o p : Option α} {x : β} :
    x ∈ whenBoth f o p ↔ ∃ a b, o = some a ∧ p = some b ∧ x ∈ f a b := by
  cases o <;> cases p <;> simp [whenBoth]

theorem Column.mem_discrepancies {n : String} {c d : Column} {x : Discrepancy} :
    x ∈ Column.discrepancies n c d ↔ (x = .columnType n c d ∧ c.type ≠ d.type) ∨
      (x = .columnNull n c d ∧ c.nullable ≠ d.nullable) ∨ (x = .columnDefault n c d ∧ c.default ≠ d.default) := by
  simp only [discrepancies, List.mem_append, List.mem_ite_nil_left, List.mem_singleton, or_assoc, ne_eq,
    and_comm (b := x = _)]

theorem Table.mem_discrepancies {t u : Table} {x : Discrepancy} : x ∈ t.discrepancies u ↔
    (∃ c ∈ t.columns, c.name ∉ u.columnNames ∧ x = .missingColumn t.name c) ∨
    (∃ c ∈ u.columns, c.name ∉ t.columnNames ∧ x = .extraColumn t.name c) ∨
    (∃ c ∈ t.columns, ∃ d ∈ u.columns, d.name = c.name ∧ x ∈ Column.discrepancies t.name c d) ∨
    (∃ c ∈ t.constraints, c.name ∉ u.constraints.map (·.name) ∧ x = .missingConstraint t.name c) ∨
    (∃ c ∈ u.constraints, c.name ∉ t.constraints.map (·.name) ∧ x = .extraConstraint t.name c) ∨
    (∃ c ∈ t.constraints, ∃ d ∈ u.constraints, d.name = c.name ∧
      (c.kind ≠ d.kind ∨ c.columns ≠ d.columns ∨ c.definition ≠ d.definition) ∧ x = .constraint t.name c d) := by
  simp only [discrepancies, List.mem_append, mem_diffNamed, List.mem_ite_nil_left, List.mem_singleton, or_assoc,
    not_and_or, Table.columnNames, ne_eq]

theorem Snapshot.mem_indexDiscrepancies {tables : List String} {l m : List Index} {x : Discrepancy} :
    x ∈ Snapshot.indexDiscrepancies tables l m ↔
    (∃ i ∈ l, i.table ∈ tables ∧ i.key ∉ (m.filter (tables.contains ·.table)).map (·.key) ∧ x = .missingIndex i) ∨
    (∃ j ∈ m, j.table ∈ tables ∧ j.key ∉ (l.filter (tables.contains ·.table)).map (·.key) ∧ x = .extraIndex j) ∨
    (∃ i ∈ l, i.table ∈ tables ∧ ∃ j ∈ m, j.table ∈ tables ∧ j.key = i.key ∧
      (i.columns ≠ j.columns ∨ i.unique ≠ j.unique) ∧ x = .index i j) := by
  simp only [indexDiscrepancies, mem_diffNamed, List.mem_ite_nil_left, List.mem_singleton, List.mem_filter,
    List.contains_iff_mem, and_assoc, not_and_or, ne_eq]

theorem Snapshot.mem_viewDiscrepancies {l m : List View} {x : Discrepancy} :
    x ∈ Snapshot.viewDiscrepancies l m ↔
    (∃ v ∈ l, v.name ∉ m.map (·.name) ∧ x = .missingView v) ∨ (∃ w ∈ m, w.name ∉ l.map (·.name) ∧ x = .extraView w) ∨
    (∃ v ∈ l, ∃ w ∈ m, w.name = v.name ∧ v.definition ≠ w.definition ∧ x = .view v w) := by
  simp only [viewDiscrepancies, mem_diffNamed, List.mem_ite_nil_left, List.mem_singleton, ne_eq]

theorem Snapshot.mem_discrepancies {e a : Snapshot} {x : Discrepancy} : x ∈ e.discrepancies a ↔ e.Differs a x := by
  have hshare : ∀ n, n ∈ e.tableNames.filter a.tableNames.contains ↔ e.Shares a n := by
    intro n
    rw [List.mem_filter, List.contains_iff_mem]
    rfl
  have hkey : ∀ (l : List Index) (k : String),
      k ∉ (l.filter ((e.tableNames.filter a.tableNames.contains).contains ·.table)).map (·.key) ↔
        ∀ i ∈ l, e.Shares a i.table → i.key ≠ k := by
    intro l k
    simp only [List.mem_map, List.mem_filter, List.contains_iff_mem, hshare, not_exists, not_and, and_imp, ne_eq]
  simp only [discrepancies, List.mem_append, mem_whenBoth, mem_diffNamed, mem_indexDiscrepancies,
    mem_viewDiscrepancies, Table.mem_discrepancies, Column.mem_discrepancies, hshare, hkey]
  cases x
  all_goals simp [Differs, Pairs, tableNames]
  all_goals grind

/-! ## No discrepancy comes twice -/

def Discrepancy.table? : Discrepancy → Option String
  | .missingColumn n _ | .extraColumn n _ | .columnType n .. | .columnNull n .. | .columnDefault n ..
  | .missingConstraint n _ | .extraConstraint n _ | .constraint n .. => some n
  | _ => none

theorem Table.table?_of_mem {t u : Table} {x : Discrepancy} (h : x ∈ t.discrepancies u) : x.table? = some t.name := by
  rw [Table.mem_discrepancies] at h
  rcases h with ⟨c, _, _, rfl⟩ | ⟨c, _, _, rfl⟩ | ⟨c, _, d, _, _, h⟩ | ⟨c, _, _, rfl⟩ | ⟨c, _, _, rfl⟩ |
    ⟨c, _, d, _, _, _, rfl⟩
  case inr.inr.inl => rcases Column.mem_discrepancies.mp h with ⟨rfl, _⟩ | ⟨rfl, _⟩ | ⟨rfl, _⟩ <;> rfl
  all_goals rfl

def Discrepancy.group : Discrepancy → Nat
  | .missingIndex _ | .extraIndex _ | .index .. => 1
  | .missingView _ | .extraView _ | .view .. => 2
  | _ => 0

theorem Discrepancy.group_of_table? {n : String} {x : Discrepancy} (h : x.table? = some n) : x.group = 0 := by
  cases x <;> first | rfl | cases h

theorem Snapshot.group_of_mem_tables {l m : List Table} {x : Discrepancy}
    (h : x ∈ diffNamed Table.name l m .missingTable .extraTable Table.discrepancies) : x.group = 0 := by
  rcases mem_diffNamed.mp h with ⟨t, _, _, rfl⟩ | ⟨t, _, _, rfl⟩ | ⟨t, _, u, _, _, h⟩
  · rfl
  · rfl
  · exact Discrepancy.group_of_table? (Table.table?_of_mem h)

theorem Snapshot.group_of_mem_indexes {tables : List String} {l m : List Index} {x : Discrepancy}
    (h : x ∈ indexDiscrepancies tables l m) : x.group = 1 := by
  rcases mem_indexDiscrepancies.mp h with ⟨i, _, _, _, rfl⟩ | ⟨i, _, _, _, rfl⟩ | ⟨i, _, _, j, _, _, _, _, rfl⟩ <;> rfl

theorem Snapshot.group_of_mem_views {l m : List View} {x : Discrepancy} (h : x ∈ viewDiscrepancies l m) :
    x.group = 2 := by
  rcases mem_viewDiscrepancies.mp h with ⟨v, _, _, rfl⟩ | ⟨v, _, _, rfl⟩ | ⟨v, _, w, _, _, _, rfl⟩ <;> rfl

theorem Column.nodup_discrepancies (n : String) (c d : Column) : (Column.discrepancies n c d).Nodup := by
  unfold Column.discrepancies
  split <;> split <;> split <;> simp

theorem Table.nodup_discrepancies {t u : Table} (ht : t.columnNames.Nodup) (hu : u.columnNames.Nodup)
    (ht' : (t.constraints.map (·.name)).Nodup) (hu' : (u.constraints.map (·.name)).Nodup) :
    (t.discrepancies u).Nodup := by
  unfold Table.discrepancies
  refine List.nodup_append.mpr ⟨nodup_diffNamed ht hu ?_ ?_ ?_ ?_ ?_ ?_ ?_,
    nodup_diffNamed_ite ht' hu' ?_ ?_ ?_ ?_ ?_ ?_, ?_⟩
  · intro c d h; injection h
  · intro c d h; injection h
  · intro c d h; cases h
  · intro c _ d _; exact Column.nodup_discrepancies _ c d
  · intro c d b h; simp [Column.mem_discrepancies] at h
  · intro c d b h; simp [Column.mem_discrepancies] at h
  · intro c d c' d' x h h'
    rw [Column.mem_discrepancies] at h h'
    grind
  · intro c d h; injection h
  · intro c d h; injection h
  · intro c d h; cases h
  · intro c d b h; cases h
  · intro c d b h; cases h
  · intro c d c' d' h; injection h
  · rintro x hx y hy rfl
    simp only [mem_diffNamed, Column.mem_discrepancies, List.mem_ite_nil_left, List.mem_singleton] at hx hy
    grind

namespace Snapshot

theorem nodup_indexDiscrepancies (tables : List String) {l m : List Index} (hl : (l.map (·.key)).Nodup)
    (hm : (m.map (·.key)).Nodup) : (indexDiscrepancies tables l m).Nodup := by
  refine nodup_diffNamed_ite ?_ ?_ ?_ ?_ ?_ ?_ ?_ ?_
  · exact hl.sublist (List.filter_sublist.map _)
  · exact hm.sublist (List.filter_sublist.map _)
  · intro i j h; injection h
  · intro i j h; injection h
  · intro i j h; cases h
  · intro i j k h; cases h
  · intro i j k h; cases h
  · intro i j i' j' h; injection h

theorem nodup_viewDiscrepancies {l m : List View} (hl : (l.map (·.name)).Nodup) (hm : (m.map (·.name)).Nodup) :
    (viewDiscrepancies l m).Nodup := by
  refine nodup_diffNamed_ite hl hm ?_ ?_ ?_ ?_ ?_ ?_
  · intro v w h; injection h
  · intro v w h; injection h
  · intro v w h; cases h
  · intro v w k h; cases h
  · intro v w k h; cases h
  · intro v w v' w' h; injection h

theorem nodup_whenBoth {α β : Type} {f : α → α → List β} {o p : Option α}
    (h : ∀ a b, o = some a → p = some b → (f a b).Nodup) : (whenBoth f o p).Nodup := by
  cases o with
  | none => exact List.nodup_nil
  | some a =>
    cases p with
    | none => exact List.nodup_nil
    | some b => exact h a b rfl rfl

theorem nodup_discrepancies {e a : Snapshot} (he : e.NamesDistinct) (ha : a.NamesDistinct) :
    (e.discrepancies a).Nodup := by
  have ht : (diffNamed Table.name e.tables a.tables .missingTable .extraTable Table.discrepancies).Nodup := by
    refine nodup_diffNamed he.tables ha.tables ?_ ?_ ?_ ?_ ?_ ?_ ?_
    · intro t u h; injection h
    · intro t u h; injection h
    · intro t u h; cases h
    · intro t ht u hu
      exact Table.nodup_discrepancies (he.columns t ht) (ha.columns u hu) (he.constraints t ht) (ha.constraints u hu)
    · intro t u v h; cases Table.table?_of_mem h
    · intro t u v h; cases Table.table?_of_mem h
    · intro t u t' u' x h h'
      exact Option.some.inj ((Table.table?_of_mem h).symm.trans (Table.table?_of_mem h'))
  have hi := nodup_whenBoth (f := indexDiscrepancies (e.tableNames.filter a.tableNames.contains)) fun l m hl hm =>
    nodup_indexDiscrepancies _ (he.indexes l hl) (ha.indexes m hm)
  have hv := nodup_whenBoth (f := viewDiscrepancies) fun l m hl hm =>
    nodup_viewDiscrepancies (he.views l hl) (ha.views m hm)
  -- Differences of tables, indexes and views are apart by their group.
  have hgi : ∀ x ∈ whenBoth (indexDiscrepancies (e.tableNames.filter a.tableNames.contains)) e.indexes a.indexes,
      x.group = 1 := by
    intro x hx
    obtain ⟨l, m, _, _, hx⟩ := mem_whenBoth.mp hx
    exact group_of_mem_indexes hx
  have hgv : ∀ x ∈ whenBoth viewDiscrepancies e.views a.views, x.group = 2 := by
    intro x hx
    obtain ⟨l, m, _, _, hx⟩ := mem_whenBoth.mp hx
    exact group_of_mem_views hx
  refine List.nodup_append.mpr ⟨List.nodup_append.mpr ⟨ht, hi, ?_⟩, hv, ?_⟩
  · rintro x hx y hy rfl
    have := (group_of_mem_tables hx).symm.trans (hgi x hy)
    omega
  · rintro x hx y hy rfl
    have hy := hgv x hy
    rcases List.mem_append.mp hx with hx | hx
    · have := (group_of_mem_tables hx).symm.trans hy
      omega
    · have := (hgi x hx).symm.trans hy
      omega

end Snapshot

/-! ## Drifts are findings -/

theorem Column.map_compare (n : String) (c d : Column) :
    (Column.compare (n ++ "." ++ c.name) c d).map Drift.finding =
      (Column.discrepancies n c d).map Discrepancy.finding := by
  unfold Column.compare Column.typeDrift Column.nullDrift Column.defaultDrift Column.discrepancies
  simp only [List.map_append]
  congr 1
  · congr 1
    · split <;> rfl
    · split <;> rfl
  · split <;> rfl

theorem Table.compareColumns_perm (t : Table) {u : Table} (hu : u.columnNames.Nodup) :
    (Table.compareColumns t u).Perm (diffNamed Column.name t.columns u.columns
      (fun c => c.missingDrift (t.name ++ "." ++ c.name)) (fun c => c.extraDrift (u.name ++ "." ++ c.name))
      fun c d => Column.compare (t.name ++ "." ++ c.name) c d) := by
  have helim : Table.compareColumns t u = (t.columns.flatMap fun c => (lastNamed? Column.name u.columns c.name).elim
      [c.missingDrift (t.name ++ "." ++ c.name)] (Column.compare (t.name ++ "." ++ c.name) c)) ++
      (lacking Column.name u.columns t.columns).map fun c => c.extraDrift (u.name ++ "." ++ c.name) := by
    unfold Table.compareColumns
    congr 1
    refine List.flatMap_congr fun c _ => ?_
    cases lastNamed? Column.name u.columns c.name <;> rfl
  rw [helim]
  unfold diffNamed
  have hlookup := flatMap_lookup_perm hu t.columns
    (fun c => c.missingDrift (t.name ++ "." ++ c.name)) fun c d => Column.compare (t.name ++ "." ++ c.name) c d
  refine List.Perm.trans (List.Perm.append_right _ hlookup) ?_
  rw [List.append_assoc, List.append_assoc]
  exact List.perm_append_comm.append_left _

theorem Table.map_compareColumns_perm {t u : Table} (hu : u.columnNames.Nodup) (hn : u.name = t.name) :
    ((Table.compareColumns t u).map Drift.finding).Perm
      ((diffNamed Column.name t.columns u.columns (.missingColumn t.name) (.extraColumn t.name)
        (Column.discrepancies t.name)).map Discrepancy.finding) := by
  refine ((compareColumns_perm t hu).map _).trans (.of_eq ?_)
  simp only [map_diffNamed, Column.map_compare]
  congr 1
  funext c
  simp only [Function.comp_apply, Column.extraDrift, Drift.finding, Discrepancy.finding, hn]

theorem Table.compareConstraints_perm {t u : Table} (ht : (t.constraints.map (·.name)).Nodup)
    (hu : (u.constraints.map (·.name)).Nodup) (hn : u.name = t.name) :
    ((Table.compareConstraints t u).map Drift.finding).Perm
      ((diffNamed Constraint.name t.constraints u.constraints (.missingConstraint t.name) (.extraConstraint t.name)
        fun c d => if c.kind = d.kind ∧ c.columns = d.columns ∧ c.definition = d.definition then [] else
          [.constraint t.name c d]).map Discrepancy.finding) := by
  unfold Table.compareConstraints
  refine ((compareNamed_perm ht hu _ _ _).map _).trans (.of_eq ?_)
  simp only [map_diffNamed]
  congr 1
  · funext c
    simp only [Function.comp_apply, Drift.finding, Discrepancy.finding, hn]
  · funext c d
    split <;> rfl

theorem Table.compare_perm {t u : Table} (ht : (t.constraints.map (·.name)).Nodup) (hu : u.columnNames.Nodup)
    (hu' : (u.constraints.map (·.name)).Nodup) (hn : u.name = t.name) :
    ((Table.compare t u).map Drift.finding).Perm ((t.discrepancies u).map Discrepancy.finding) := by
  unfold Table.compare Table.discrepancies
  rw [List.map_append, List.map_append]
  exact (map_compareColumns_perm hu hn).append (compareConstraints_perm ht hu' hn)

namespace Snapshot

theorem compareTables_perm {e a : Snapshot} (he : e.NamesDistinct) (ha : a.NamesDistinct) :
    ((compareTables e a).map Drift.finding).Perm ((diffNamed Table.name e.tables a.tables .missingTable .extraTable
      Table.discrepancies).map Discrepancy.finding) := by
  unfold compareTables
  refine ((compareNamed_perm he.tables ha.tables _ _ _).map _).trans ?_
  simp only [map_diffNamed]
  refine diffNamed_perm fun t ht u hu hn => ?_
  exact Table.compare_perm (he.constraints t ht) (ha.columns u hu) (ha.constraints u hu) hn

theorem compareIndexes_perm (tables : List String) {l m : List Index} (hl : (l.map (·.key)).Nodup)
    (hm : (m.map (·.key)).Nodup) :
    ((compareIndexes tables l m).map Drift.finding).Perm
      ((indexDiscrepancies tables l m).map Discrepancy.finding) := by
  unfold compareIndexes indexDiscrepancies
  refine ((compareNamed_perm ?_ ?_ _ _ _).map _).trans (.of_eq ?_)
  · exact hl.sublist (List.filter_sublist.map _)
  · exact hm.sublist (List.filter_sublist.map _)
  · simp only [map_diffNamed]
    congr 1
    funext i j
    split <;> rfl

theorem compareViews_perm {l m : List View} (hl : (l.map (·.name)).Nodup) (hm : (m.map (·.name)).Nodup) :
    ((compareViews l m).map Drift.finding).Perm ((viewDiscrepancies l m).map Discrepancy.finding) := by
  unfold compareViews viewDiscrepancies
  refine ((compareNamed_perm hl hm _ _ _).map _).trans (.of_eq ?_)
  simp only [map_diffNamed]
  congr 1
  funext v w
  split <;> rfl

theorem map_whenBoth_perm {α β γ δ : Type} {f : α → α → List β} {g : α → α → List γ} {r : β → δ} {s : γ → δ}
    {o p : Option α} (h : ∀ a b, o = some a → p = some b → ((f a b).map r).Perm ((g a b).map s)) :
    ((whenBoth f o p).map r).Perm ((whenBoth g o p).map s) := by
  cases o with
  | none => exact .refl _
  | some a =>
    cases p with
    | none => exact .refl _
    | some b => exact h a b rfl rfl

theorem compare_eq (e a : Snapshot) : e.compare a = compareTables e a ++
    whenBoth (compareIndexes (e.tableNames.filter a.tableNames.contains)) e.indexes a.indexes ++
    whenBoth compareViews e.views a.views := by
  unfold compare
  cases e.indexes <;> cases a.indexes <;> cases e.views <;> cases a.views <;> rfl

theorem compare_perm_discrepancies {e a : Snapshot} (he : e.NamesDistinct) (ha : a.NamesDistinct) :
    ((e.compare a).map Drift.finding).Perm ((e.discrepancies a).map Discrepancy.finding) := by
  rw [compare_eq, discrepancies, List.map_append, List.map_append, List.map_append, List.map_append]
  refine ((compareTables_perm he ha).append (map_whenBoth_perm fun l m hl hm => ?_)).append
    (map_whenBoth_perm fun l m hl hm => ?_)
  · exact compareIndexes_perm _ (he.indexes l hl) (ha.indexes m hm)
  · exact compareViews_perm (he.views l hl) (ha.views m hm)

theorem exists_of_differs {e a : Snapshot} (he : e.NamesDistinct) (ha : a.NamesDistinct) {x : Discrepancy}
    (h : e.Differs a x) : ∃ y ∈ e.compare a, y.finding = x.finding := by
  have hx : x.finding ∈ (e.discrepancies a).map Discrepancy.finding := List.mem_map_of_mem (mem_discrepancies.mpr h)
  exact List.mem_map.mp ((compare_perm_discrepancies he ha).mem_iff.mpr hx)

/-- Comparing two schemas reports every discrepancy between them once, and nothing else. -/
theorem compare_perm_findings {e a : Snapshot} (he : e.NamesDistinct) (ha : a.NamesDistinct) :
    ∃ l : List Discrepancy, l.Nodup ∧ (∀ x, x ∈ l ↔ e.Differs a x) ∧
      ((e.compare a).map Drift.finding).Perm (l.map Discrepancy.finding) :=
  ⟨e.discrepancies a, nodup_discrepancies he ha, fun _ => mem_discrepancies, compare_perm_discrepancies he ha⟩

/-- One table with two columns and a key, one index and no views looked at. -/
def orders (totalType indexName : String) : Snapshot where
  version := "1"
  capturedAt := ⟨2024, 5, 1, 12, 0, 0, 0, some 0⟩
  tables := [{
    name := "orders"
    columns := [
      ⟨"id", "integer", false, false, true, none, none⟩,
      ⟨"total", totalType, true, false, false, none, none⟩]
    primaryKey := some ["id"]
    constraints := [⟨"orders_pk", .primaryKey, ["id"], "", none, none⟩] }]
  views := none
  indexes := some [⟨"orders", indexName, ["total"], false⟩]

theorem orders_namesDistinct (totalType indexName : String) : (orders totalType indexName).NamesDistinct := by
  have htable : ∀ t ∈ (orders totalType indexName).tables, t.columnNames = ["id", "total"] ∧
      t.constraints.map (·.name) = ["orders_pk"] := by
    intro t ht
    rw [List.mem_singleton.mp ht]
    exact ⟨rfl, rfl⟩
  refine ⟨List.nodup_singleton _, fun t ht => ?_, fun t ht => ?_, fun l hl => ?_, fun l hl => ?_⟩
  · rw [(htable t ht).1]
    decide
  · rw [(htable t ht).2]
    exact List.nodup_singleton _
  · cases hl
    exact List.nodup_singleton _
  · cases hl

theorem compare_perm_findings_orders :
    (orders "integer" "by_total").NamesDistinct ∧ (orders "text" "totals").NamesDistinct ∧
      ∃ l : List Discrepancy, l.Nodup ∧
        (∀ x, x ∈ l ↔ (orders "integer" "by_total").Differs (orders "text" "totals") x) ∧
        (((orders "integer" "by_total").compare (orders "text" "totals")).map Drift.finding).Perm
          (l.map Discrepancy.finding) :=
  ⟨orders_namesDistinct _ _, orders_namesDistinct _ _,
    compare_perm_findings (orders_namesDistinct _ _) (orders_namesDistinct _ _)⟩

end Snapshot

/-! ## A schema against itself -/

theorem Table.compareColumns_self {t : Table} (h : t.columnNames.Nodup) : Table.compareColumns t t = [] := by
  have hnone : t.columns.filter (fun c => !t.columnNames.contains c.name) = [] := by
    rw [List.filter_eq_nil_iff]
    intro c hc
    rw [List.contains_iff_mem.mpr (show c.name ∈ t.columnNames from List.mem_map_of_mem hc)]
    exact Bool.false_ne_true
  unfold Table.compareColumns
  rw [hnone, List.map_nil, List.append_nil, List.flatMap_eq_nil_iff]
  intro c hc
  rw [lastNamed?_of_mem h hc]
  unfold Column.compare Column.typeDrift Column.nullDrift Column.defaultDrift
  simp only [if_true, List.append_nil]

/-- Only the names of columns have to be distinct: other entries are looked up alike on both sides. -/
theorem Snapshot.compare_self {s : Snapshot} (h : ∀ t ∈ s.tables, t.columnNames.Nodup) : s.compare s = [] := by
  have hconstraints : ∀ t : Table, Table.compareConstraints t t = [] := fun t =>
    compareNamed_self fun n c _ => if_pos ⟨rfl, rfl, rfl⟩
  have htables : compareTables s s = [] := by
    refine compareNamed_self fun n t ht => ?_
    rw [Table.compare, Table.compareColumns_self (h t ht), hconstraints]
    rfl
  have hindexes : ∀ l m, compareIndexes l m m = [] := fun l m => compareNamed_self fun n i _ => if_pos ⟨rfl, rfl⟩
  have hviews : ∀ m, compareViews m m = [] := fun m => compareNamed_self fun n v _ => if_pos rfl
  unfold Snapshot.compare
  rw [htables]
  cases s.indexes <;> cases s.views <;> simp only [hindexes, hviews, List.append_nil]

end SchemaConcord
