import SchemaConcord.Proofs.Database.Capture
import SchemaConcord.Proofs.Text.Edit

/-!
# The order in which a database lists

An analyzer sorts by name what has no order of its own, so a capture forgets the order of a listing but for three
things (`look_relisted`). Constraints of one name, and indexes of one name, stay as they are listed; a check without a
name is named by its place in the list; and a column that is a foreign key twice refers to what the last of the two
points to. The views of a capture, and the fault of one that fails, do not depend on the order at all.
-/

namespace SchemaConcord

open Text

/-! ## Tables listed anew -/

namespace ReflectedTable

/-- The constraints of a table in the order in which they are listed, each with its name as given or derived. -/
def listed (t : ReflectedTable) (name : String) : List Constraint :=
  (t.primaryKey.toPrimaryKey? name).toList ++ t.foreignKeys.map (ReflectedForeignKey.toConstraint name) ++
    t.uniques.map (ReflectedKey.toUnique name) ++
    ((t.checks.getD []).zipIdx 1).map fun (c, k) => ReflectedCheck.toConstraint name k c

/-- The indexes that stand behind no constraint, in the order in which they are listed. -/
def shown (t : ReflectedTable) (name : String) : List Index :=
  (t.indexes.filter (!·.duplicatesConstraint)).map (ReflectedIndex.toIndex name)

/-- The same table with its keys, checks and indexes in any order. -/
structure Relisted (t u : ReflectedTable) : Prop where
  columns : u.columns = t.columns
  primaryKey : u.primaryKey = t.primaryKey
  foreignKeys : u.foreignKeys.Perm t.foreignKeys
  uniques : u.uniques.Perm t.uniques
  checks : (u.checks.getD []).Perm (t.checks.getD [])
  indexes : u.indexes.Perm t.indexes

/-- Every check has a name, and no two constraints, no two indexes and no two foreign keys of one column each share what
they are told apart by. -/
structure Apart (t : ReflectedTable) (name : String) : Prop where
  checks : ∀ c ∈ t.checks.getD [], c.name.any (!·.isEmpty) = true
  constraints : ((t.listed name).map (·.name)).Nodup
  references : ((t.foreignKeys.filterMap ReflectedForeignKey.reference?).map (·.1)).Nodup
  indexes : ((t.shown name).map (·.name)).Nodup

variable {t u : ReflectedTable} {name : String}

theorem constraints_eq_iff : u.constraints name = t.constraints name ↔
    ∀ n, (u.listed name).filter (·.name = n) = (t.listed name).filter (·.name = n) :=
  sorted_eq_iff Constraint.name _ _

theorem uniqueColumns_perm (h : t.Relisted u) (includeIndexes : Bool) :
    (u.uniqueColumns includeIndexes).Perm (t.uniqueColumns includeIndexes) := by
  unfold uniqueColumns
  refine (h.uniques.filterMap _).append ?_
  cases includeIndexes with
  | true => exact (h.indexes.filter _).filterMap _
  | false => exact .refl _

theorem toColumn_relisted (h : t.Relisted u) (dialect : String) (includeIndexes : Bool) (c : ReflectedColumn) :
    u.toColumn dialect includeIndexes c = t.toColumn dialect includeIndexes c ↔
      u.reference? c.name = t.reference? c.name := by
  unfold toColumn
  rw [h.primaryKey, (uniqueColumns_perm h includeIndexes).contains_eq]
  simp only [Column.mk.injEq, true_and]

/-- Of a table listed anew, the references of its columns and the constraints that share a name may come out otherwise,
and nothing else. -/
theorem toTable_relisted (h : t.Relisted u) (dialect : String) (includeIndexes : Bool)
    (columns : List ReflectedColumn) :
    u.toTable dialect includeIndexes name columns = t.toTable dialect includeIndexes name columns ↔
      (∀ c ∈ columns, u.reference? c.name = t.reference? c.name) ∧
        ∀ n, (u.listed name).filter (·.name = n) = (t.listed name).filter (·.name = n) := by
  unfold toTable
  rw [h.primaryKey]
  simp only [Table.mk.injEq, true_and, List.map_inj_left, toColumn_relisted h, constraints_eq_iff]

theorem toConstraint_of_named {c : ReflectedCheck} (h : c.name.any (!·.isEmpty) = true) (i j : Nat) :
    c.toConstraint name i = c.toConstraint name j := by
  unfold ReflectedCheck.toConstraint givenName
  cases hn : c.name with
  | none =>
    rw [hn] at h
    cases h
  | some n =>
    rw [hn, Option.any_some] at h
    simp only [Option.filter_some, if_pos h, Option.getD_some]

theorem listed_perm (h : t.Relisted u) (hnamed : ∀ c ∈ t.checks.getD [], c.name.any (!·.isEmpty) = true) :
    (u.listed name).Perm (t.listed name) := by
  have hchecks : ∀ l : List ReflectedCheck, (∀ c ∈ l, c.name.any (!·.isEmpty) = true) →
      ((l.zipIdx 1).map fun (c, k) => c.toConstraint name k) = l.map (·.toConstraint name 0) := by
    intro l hl
    conv => rhs; rw [← List.zipIdx_map_fst 1 l, List.map_map]
    refine List.map_congr_left fun p hp => toConstraint_of_named (hl p.1 ?_) _ _
    exact List.fst_mem_of_mem_zipIdx hp
  unfold listed
  rw [h.primaryKey, hchecks _ hnamed, hchecks _ fun c hc => hnamed c (h.checks.mem_iff.mp hc)]
  exact (((List.Perm.refl _).append (h.foreignKeys.map _)).append (h.uniques.map _)).append (h.checks.map _)

theorem reference?_of_apart (h : t.Relisted u) (ha : t.Apart name) (column : String) :
    u.reference? column = t.reference? column := by
  have hkeys := (h.foreignKeys.filterMap ReflectedForeignKey.reference?)
  refine lookup_of_perm (((List.reverse_perm _).trans hkeys).trans (List.reverse_perm _).symm) ?_
  rw [List.map_reverse]
  exact List.nodup_reverse.mpr ha.references

end ReflectedTable

/-! ## Databases listed anew -/

namespace Reflection

/-- The same database with its tables and views, and what each table has of keys, checks and indexes, in any order. -/
structure Relisted (r r' : Reflection) : Prop where
  dialect : r'.dialect = r.dialect
  refusals : r'.refusals = r.refusals
  tables : (r'.tables.map (·.1)).Perm (r.tables.map (·.1))
  relisted : ∀ name t u, (name, t) ∈ r.tables → (name, u) ∈ r'.tables → t.Relisted u
  views : r'.views.Perm r.views

/-- No two tables, and no two views, share a name. -/
structure NamesDistinct (r : Reflection) : Prop where
  tables : (r.tables.map (·.1)).Nodup
  views : (r.views.map (·.1)).Nodup

/-- The columns that are told of a table or view. -/
def told (r : Reflection) (name : String) : List ReflectedColumn := ((r.columnsOf name).toOption).getD []

variable {r r' : Reflection}

theorem ask_relisted {α : Type} (h : r.Relisted r') (i : Inquiry) (answer : α) :
    r'.ask i answer = r.ask i answer := by
  unfold ask
  rw [h.refusals]

theorem fault?_ask {α β : Type} (r : Reflection) (i : Inquiry) (x : α) (y : β) :
    fault? (r.ask i x) = fault? (r.ask i y) := by
  unfold ask
  split <;> rfl

theorem columnsOf_relisted (h : r.Relisted r') (hr : r.NamesDistinct) (name : String) :
    r'.columnsOf name = r.columnsOf name := by
  have htables : (r'.tables.lookup name).bind (·.columns) = (r.tables.lookup name).bind (·.columns) := by
    cases hu : r'.tables.lookup name with
    | none =>
      cases ht : r.tables.lookup name with
      | none => rfl
      | some t =>
        obtain ⟨p, hp, rfl⟩ := List.mem_map.mp (h.tables.mem_iff.mpr (List.mem_map_of_mem (mem_of_lookup ht)))
        obtain ⟨u, hu'⟩ := exists_lookup hp
        cases hu.symm.trans hu'
    | some u =>
      obtain ⟨⟨_, t⟩, ht, rfl⟩ := List.mem_map.mp (h.tables.mem_iff.mp (List.mem_map_of_mem (mem_of_lookup hu)))
      rw [lookup_of_mem hr.tables ht]
      exact (h.relisted _ t u ht (mem_of_lookup hu)).columns
  unfold columnsOf
  rw [htables, lookup_of_perm h.views hr.views, ask_relisted h]

theorem told_relisted (h : r.Relisted r') (hr : r.NamesDistinct) (name : String) : r'.told name = r.told name := by
  rw [told, columnsOf_relisted h hr, told]

end Reflection

namespace Analyzer

/-- What a capture tells apart by the order of the listing alone is listed in the same order: the constraints of a table
that share a name, its indexes that share one, and the foreign keys of one column each that share it. -/
structure SameTies (a : Analyzer) (r r' : Reflection) : Prop where
  constraints : ∀ name t u, (name, t) ∈ a.kept r.tables → (name, u) ∈ r'.tables → ∀ n,
    (u.listed name).filter (·.name = n) = (t.listed name).filter (·.name = n)
  references : ∀ name t u, (name, t) ∈ a.kept r.tables → (name, u) ∈ r'.tables → ∀ c ∈ r.told name,
    u.reference? c.name = t.reference? c.name
  indexes : a.includeIndexes = true → ∀ name t u, (name, t) ∈ a.kept r.tables → (name, u) ∈ r'.tables → ∀ n,
    (u.shown name).filter (·.name = n) = (t.shown name).filter (·.name = n)

variable {a : Analyzer} {r r' : Reflection} {s s' : Snapshot} {now now' : Moment}

theorem sameTies_of_apart (h : r.Relisted r') (ha : ∀ item ∈ a.kept r.tables, item.2.Apart item.1) :
    a.SameTies r r' where
  constraints name t u ht hu n :=
    filter_of_perm (ReflectedTable.listed_perm (h.relisted name t u (mem_of_kept ht) hu) (ha _ ht).checks)
      (ha _ ht).constraints n
  references name t u ht hu c _ :=
    ReflectedTable.reference?_of_apart (h.relisted name t u (mem_of_kept ht) hu) (ha _ ht) c.name
  indexes _ name t u ht hu n :=
    filter_of_perm (((h.relisted name t u (mem_of_kept ht) hu).indexes.filter _).map _) (ha _ ht).indexes n

/-! ## What a capture keeps -/

theorem kept_names (a : Analyzer) (tables : List (String × ReflectedTable)) :
    (a.kept tables).map (·.1) = sortTexts ((tables.map (·.1)).filter (!a.excludes ·)) := by
  unfold kept byName sortTexts
  rw [List.map_mergeSort (s := textLe) fun _ _ _ _ => rfl, List.filter_map]
  rfl

theorem nodup_kept (hr : r.NamesDistinct) : ((a.kept r.tables).map (·.1)).Nodup := by
  rw [kept_names, (sortTexts_perm _).nodup_iff]
  exact hr.tables.filter _

/-- All that is asked of a table, and what is told of its columns. -/
def inquire (a : Analyzer) (r : Reflection) (name : String) : Except ReflectionFault (List ReflectedColumn) := do
  let columns ← r.columnsOf name
  r.ask .primaryKey ()
  r.ask .foreignKeys ()
  r.ask .uniques ()
  r.ask .checks ()
  if a.includeIndexes then r.ask .indexes ()
  return columns

theorem tableOf_eq (a : Analyzer) (r : Reflection) (item : String × ReflectedTable) :
    a.tableOf r item = (a.inquire r item.1).map (item.2.toTable r.dialect a.includeIndexes item.1) := by
  have hmap : ∀ (f : List ReflectedColumn → Table) (x : Except ReflectionFault (List ReflectedColumn)),
      x.map f = f <$> x := fun _ _ => rfl
  unfold tableOf inquire
  by_cases hi : a.includeIndexes = true
  · simp only [if_pos hi, hmap, map_bind, map_pure]
  · simp only [if_neg hi, hmap, map_bind, map_pure]

theorem indexesOf_eq (r : Reflection) (item : String × ReflectedTable) :
    indexesOf r item = (r.ask .indexes ()).map fun _ => item.2.shown item.1 := by
  unfold indexesOf Reflection.ask
  split <;> rfl

theorem tables_of_look (h : a.look r now = .ok s) :
    s.tables = (a.kept r.tables).map fun item => item.2.toTable r.dialect a.includeIndexes item.1 (r.told item.1) := by
  obtain ⟨_, _, htables, _⟩ := look_ok h
  rw [← List.map_id s.tables]
  refine map_of_mapM (fun item t ht => ?_) htables
  obtain ⟨columns, hcolumns, rfl⟩ := tableOf_ok ht
  rw [Reflection.told, hcolumns]
  rfl

theorem shown_of_look (h : a.look r now = .ok s) : s.indexes = if a.includeIndexes then
    some (((a.kept r.tables).flatMap fun item => item.2.shown item.1).mergeSort indexLe) else none := by
  obtain ⟨_, _, _, hindexes, _⟩ := look_ok h
  unfold lookIndexes at hindexes
  by_cases hi : a.includeIndexes = true
  · rw [if_pos hi] at hindexes ⊢
    cases hall : (a.kept r.tables).mapM (indexesOf r) with
    | error f =>
      rw [hall] at hindexes
      cases hindexes
    | ok all =>
      have hshown : all.map id = (a.kept r.tables).map fun item => item.2.shown item.1 := by
        refine map_of_mapM (fun item l hl => ?_) hall
        rw [indexesOf_eq] at hl
        cases hask : r.ask .indexes () with
        | error f =>
          rw [hask] at hl
          cases hl
        | ok _ =>
          rw [hask] at hl
          exact (Except.ok.inj hl).symm
      rw [hall] at hindexes
      rw [← Except.ok.inj hindexes, List.flatMap_def, ← hshown, List.map_id]
  · rw [if_neg hi] at hindexes ⊢
    exact (Except.ok.inj hindexes).symm

theorem indexLe_iff {i j : Index} :
    indexLe i j = true ↔ i.table ≤ j.table ∧ (i.table = j.table → i.name ≤ j.name) := by
  unfold indexLe
  by_cases h : i.table = j.table
  · rw [if_pos h, textLe_iff, h]
    exact ⟨fun hle => ⟨String.le_refl _, fun _ => hle⟩, fun hle => hle.2 rfl⟩
  · rw [if_neg h, textLe_iff]
    exact ⟨fun hle => ⟨hle, fun e => absurd e h⟩, fun hle => hle.1⟩

theorem indexLe_trans (i j k : Index) (hij : indexLe i j = true) (hjk : indexLe j k = true) : indexLe i k = true := by
  rw [indexLe_iff] at *
  refine ⟨String.le_trans hij.1 hjk.1, fun hik => ?_⟩
  have htable : i.table = j.table := String.le_antisymm hij.1 (hik ▸ hjk.1)
  exact String.le_trans (hij.2 htable) (hjk.2 (htable.symm.trans hik))

theorem indexLe_total (i j : Index) : (indexLe i j || indexLe j i) = true := by
  rw [Bool.or_eq_true, indexLe_iff, indexLe_iff]
  by_cases h : i.table = j.table
  · rcases String.le_total i.name j.name with hle | hle
    · exact .inl ⟨h ▸ String.le_refl _, fun _ => hle⟩
    · exact .inr ⟨h ▸ String.le_refl _, fun _ => hle⟩
  · rcases String.le_total i.table j.table with hle | hle
    · exact .inl ⟨hle, fun e => absurd e h⟩
    · exact .inr ⟨hle, fun e => absurd e.symm h⟩

theorem indexLe_antisymm (i j : Index) (hij : indexLe i j = true) (hji : indexLe j i = true) :
    (i.table, i.name) = (j.table, j.name) := by
  rw [indexLe_iff] at *
  have htable := String.le_antisymm hij.1 hji.1
  rw [htable, String.le_antisymm (hij.2 htable) (hji.2 htable.symm)]

theorem filter_shown (t : ReflectedTable) (name n : String) :
    ((t.shown name).filter fun i => (i.table, i.name) = (name, n)) = (t.shown name).filter (·.name = n) := by
  refine List.filter_congr fun i hi => decide_eq_decide.mpr ?_
  obtain ⟨raw, _, rfl⟩ := List.mem_map.mp hi
  simp only [ReflectedIndex.toIndex, Prod.mk.injEq, true_and]

theorem filter_shown_of_ne (t : ReflectedTable) {name other : String} (h : name ≠ other) (n : String) :
    ((t.shown name).filter fun i => (i.table, i.name) = (other, n)) = [] := by
  refine List.filter_eq_nil_iff.mpr fun i hi => ?_
  obtain ⟨raw, _, rfl⟩ := List.mem_map.mp hi
  simp only [ReflectedIndex.toIndex, Prod.mk.injEq, h, false_and, decide_false, Bool.false_eq_true, not_false_eq_true]

/-- The indexes of all tables together that have one table and one name are those of that table. -/
theorem filter_flatMap_shown {l : List (String × ReflectedTable)} (hl : (l.map (·.1)).Nodup) {name : String}
    {t : ReflectedTable} (ht : (name, t) ∈ l) (n : String) :
    ((l.flatMap fun item => item.2.shown item.1).filter fun i => (i.table, i.name) = (name, n)) =
      (t.shown name).filter (·.name = n) := by
  rw [List.filter_flatMap, flatMap_of_key hl ht fun item _ hne => filter_shown_of_ne item.2 hne n, filter_shown]

/-- The sorted indexes of two listings agree when those of one table and name are listed in the same order. -/
theorem sorted_shown_iff {l m : List (String × ReflectedTable)} (hl : (l.map (·.1)).Nodup)
    (hnames : m.map (·.1) = l.map (·.1)) :
    (m.flatMap fun item => item.2.shown item.1).mergeSort indexLe =
        (l.flatMap fun item => item.2.shown item.1).mergeSort indexLe ↔
      ∀ name t u, (name, t) ∈ l → (name, u) ∈ m → ∀ n,
        (u.shown name).filter (·.name = n) = (t.shown name).filter (·.name = n) := by
  have hm : (m.map (·.1)).Nodup := hnames ▸ hl
  have hle : ∀ i j : Index, (i.table, i.name) = (j.table, j.name) → indexLe i j = true := by
    intro i j h
    rw [Prod.mk.injEq] at h
    exact indexLe_iff.mpr ⟨h.1 ▸ String.le_refl _, fun _ => h.2 ▸ String.le_refl _⟩
  rw [mergeSort_eq_iff indexLe_trans indexLe_total indexLe_antisymm hle]
  constructor
  · intro h name t u ht hu n
    rw [← filter_flatMap_shown hl ht, ← filter_flatMap_shown hm hu]
    exact h (name, n)
  · rintro h ⟨name, n⟩
    by_cases hname : name ∈ l.map (·.1)
    · obtain ⟨⟨_, u⟩, hu, hname'⟩ := List.mem_map.mp (hnames ▸ hname)
      obtain ⟨⟨_, t⟩, ht, rfl⟩ := List.mem_map.mp hname
      cases hname'
      rw [filter_flatMap_shown hl ht, filter_flatMap_shown hm hu]
      exact h _ t u ht hu n
    · have hnone : ∀ l : List (String × ReflectedTable), name ∉ l.map (·.1) →
          ((l.flatMap fun item => item.2.shown item.1).filter fun i => (i.table, i.name) = (name, n)) = [] := by
        intro l hl
        rw [List.filter_flatMap]
        refine List.flatMap_eq_nil_iff.mpr fun item hitem => filter_shown_of_ne item.2 ?_ n
        rintro rfl
        exact hl (List.mem_map_of_mem hitem)
      rw [hnone m (hnames ▸ hname), hnone l hname]

/-! ## Captures of databases listed anew -/

section
variable (h : r.Relisted r')

include h

theorem kept_names_relisted : (a.kept r'.tables).map (·.1) = (a.kept r.tables).map (·.1) := by
  rw [kept_names, kept_names, sortTexts_of_perm (h.tables.filter _)]

theorem inquire_relisted (hr : r.NamesDistinct) (name : String) : a.inquire r' name = a.inquire r name := by
  unfold inquire
  simp only [Reflection.columnsOf_relisted h hr, Reflection.ask_relisted h]

theorem lookViews_relisted (hr : r.NamesDistinct) : a.lookViews r' = a.lookViews r := by
  have hsorted : byName r'.views = byName r.views :=
    (sorted_eq_iff Prod.fst _ _).mpr (filter_of_perm h.views hr.views)
  have hview : viewOf r' = viewOf r := by
    funext item
    unfold viewOf
    rw [Reflection.ask_relisted h, Reflection.columnsOf_relisted h hr]
  unfold lookViews Reflection.ask
  rw [h.refusals, hview]
  cases r.refusals.lookup .viewNames with
  | none => simp only [ok_bind, hsorted]
  | some reason => rfl

theorem fault?_tables_relisted (hr : r.NamesDistinct) :
    fault? ((a.kept r'.tables).mapM (a.tableOf r')) = fault? ((a.kept r.tables).mapM (a.tableOf r)) := by
  have hfault : ∀ (r : Reflection) (l : List (String × ReflectedTable)),
      fault? (l.mapM (a.tableOf r)) = (l.map (·.1)).findSome? fun name => fault? (a.inquire r name) := by
    intro r l
    simp only [fault?_mapM, tableOf_eq, fault?_map, List.findSome?_map, Function.comp_def]
  simp only [hfault, kept_names_relisted h, inquire_relisted h hr]

theorem fault?_indexes_relisted :
    fault? (a.lookIndexes r' (a.kept r'.tables)) = fault? (a.lookIndexes r (a.kept r.tables)) := by
  have hfault : ∀ (r : Reflection) (l : List (String × ReflectedTable)),
      fault? (l.mapM (indexesOf r)) = (l.map (·.1)).findSome? fun _ => fault? (r.ask .indexes ()) := by
    intro r l
    simp only [fault?_mapM, indexesOf_eq, fault?_map, List.findSome?_map, Function.comp_def]
  unfold lookIndexes
  split
  · refine (fault?_map _ _).trans (.trans ?_ (fault?_map _ _).symm)
    simp only [hfault, kept_names_relisted h, Reflection.ask_relisted h]
  · rfl

theorem fault?_look_relisted (hr : r.NamesDistinct) (now now' : Moment) :
    fault? (a.look r' now') = fault? (a.look r now) := by
  rw [look_eq, look_eq, lookViews_relisted h hr]
  refine fault?_bind ?_ fun listed listed' hlisted hlisted' => ?_
  · rw [Reflection.ask_relisted h]
    exact Reflection.fault?_ask ..
  rw [ask_ok hlisted, ask_ok hlisted']
  have htables := fault?_tables_relisted (a := a) h hr
  have hindexes := fault?_indexes_relisted (a := a) h
  refine fault?_bind htables fun tables tables' _ _ => ?_
  refine fault?_bind hindexes fun indexes indexes' _ _ => ?_
  exact fault?_bind rfl fun views views' _ _ => show (none : Option ReflectionFault) = none from rfl

theorem kept_of_relisted {name : String} {t u : ReflectedTable} (ht : (name, t) ∈ a.kept r.tables)
    (hu : (name, u) ∈ r'.tables) : (name, u) ∈ a.kept r'.tables ∧ t.Relisted u :=
  ⟨mem_kept.mpr ⟨hu, (mem_kept.mp ht).2⟩, h.relisted name t u (mem_of_kept ht) hu⟩

section
variable (hr : r.NamesDistinct) (hs : a.look r now = .ok s) (hs' : a.look r' now' = .ok s')

include hr hs hs'

theorem views_relisted : s'.views = s.views := by
  have hviews := (look_ok hs').2.2.2.2
  rw [lookViews_relisted h hr, (look_ok hs).2.2.2.2] at hviews
  exact (Except.ok.inj hviews).symm

theorem tables_relisted : s'.tables = s.tables ↔
    ∀ name t u, (name, t) ∈ a.kept r.tables → (name, u) ∈ r'.tables →
      (∀ c ∈ r.told name, u.reference? c.name = t.reference? c.name) ∧
        ∀ n, (u.listed name).filter (·.name = n) = (t.listed name).filter (·.name = n) := by
  have htable : ∀ name t u, (name, t) ∈ a.kept r.tables → (name, u) ∈ r'.tables →
      (u.toTable r'.dialect a.includeIndexes name (r'.told name) =
          t.toTable r.dialect a.includeIndexes name (r.told name) ↔
        (∀ c ∈ r.told name, u.reference? c.name = t.reference? c.name) ∧
          ∀ n, (u.listed name).filter (·.name = n) = (t.listed name).filter (·.name = n)) := by
    intro name t u ht hu
    rw [h.dialect, Reflection.told_relisted h hr]
    exact ReflectedTable.toTable_relisted (kept_of_relisted h ht hu).2 ..
  rw [tables_of_look hs, tables_of_look hs', map_eq_map_iff (nodup_kept hr) (kept_names_relisted h)]
  constructor
  · intro hall name t u ht hu
    exact (htable name t u ht hu).mp (hall _ ht _ (kept_of_relisted h ht hu).1 rfl)
  · rintro hall ⟨name, t⟩ ht ⟨_, u⟩ hu rfl
    exact (htable _ t u ht (mem_of_kept hu)).mpr (hall _ t u ht (mem_of_kept hu))

theorem indexes_relisted : s'.indexes = s.indexes ↔ (a.includeIndexes = true →
    ∀ name t u, (name, t) ∈ a.kept r.tables → (name, u) ∈ r'.tables → ∀ n,
      (u.shown name).filter (·.name = n) = (t.shown name).filter (·.name = n)) := by
  rw [shown_of_look hs, shown_of_look hs']
  by_cases hi : a.includeIndexes = true
  · rw [if_pos hi, if_pos hi, Option.some.injEq, sorted_shown_iff (nodup_kept hr) (kept_names_relisted h)]
    constructor
    · intro hall _ name t u ht hu
      exact hall name t u ht (kept_of_relisted h ht hu).1
    · intro hall name t u ht hu
      exact hall hi name t u ht (mem_of_kept hu)
  · rw [if_neg hi, if_neg hi]
    exact iff_of_true rfl fun hi' => absurd hi' hi

/-- A capture of a database listed anew has the same views, and the same tables and indexes just when what is told apart
by the order of the listing alone is listed in the same order. -/
theorem look_relisted : s'.views = s.views ∧ (s'.tables = s.tables ∧ s'.indexes = s.indexes ↔ a.SameTies r r') := by
  refine ⟨views_relisted h hr hs hs', ?_⟩
  rw [tables_relisted h hr hs hs', indexes_relisted h hr hs hs']
  constructor
  · rintro ⟨htables, hindexes⟩
    exact ⟨fun name t u ht hu => (htables name t u ht hu).2, fun name t u ht hu => (htables name t u ht hu).1, hindexes⟩
  · intro hties
    exact ⟨fun name t u ht hu => ⟨hties.references name t u ht hu, hties.constraints name t u ht hu⟩, hties.indexes⟩

end

end

/-- The order in which a database lists what it has leaves the fault of a failing analysis and the views of a capture as
they are, and its tables and indexes too unless entries come in another order that nothing but the order tells apart;
there are no such entries where all checks have names and nothing shares a name or, for a foreign key, its column. -/
theorem analyze_relisted (a : Analyzer) (h : r.Relisted r') (hr : r.NamesDistinct) (now now' : Moment) :
    (∃ f, a.analyze r now = .error f ∧ a.analyze r' now' = .error f) ∨
    ∃ s s', a.analyze r now = .ok s ∧ a.analyze r' now' = .ok s' ∧ s'.views = s.views ∧
      (s'.tables = s.tables ∧ s'.indexes = s.indexes ↔ a.SameTies r r') ∧
      ((∀ item ∈ a.kept r.tables, item.2.Apart item.1) → s'.tables = s.tables ∧ s'.indexes = s.indexes) := by
  have hfault := fault?_look_relisted (a := a) h hr now now'
  unfold analyze
  cases hs : a.look r now with
  | error f =>
    cases hs' : a.look r' now' with
    | error f' =>
      rw [hs, hs'] at hfault
      cases hfault
      exact .inl ⟨_, rfl, rfl⟩
    | ok s' =>
      rw [hs, hs'] at hfault
      cases hfault
  | ok s =>
    cases hs' : a.look r' now' with
    | error f' =>
      rw [hs, hs'] at hfault
      cases hfault
    | ok s' =>
      obtain ⟨hviews, hrest⟩ := look_relisted h hr hs hs'
      exact .inr ⟨s, s', rfl, rfl, hviews, hrest, fun hapart => hrest.mpr (sameTies_of_apart h hapart)⟩

/-! ## A shop listed twice -/

def shopOrders (checks : List ReflectedCheck) (foreignKeys : List ReflectedForeignKey)
    (indexes : List ReflectedIndex) : ReflectedTable where
  columns := some
    [⟨"id", .text "INTEGER", false, none, false, false⟩, ⟨"owner", .text "INTEGER", true, none, false, false⟩]
  primaryKey := ⟨none, ["id"]⟩
  foreignKeys
  uniques := []
  checks := some checks
  indexes

def ownerKey (target : String) : ReflectedForeignKey := ⟨none, ["owner"], target, ["id"], none, none⟩

def pairKey : ReflectedForeignKey := ⟨some "pair", ["owner", "id"], "pairs", ["owner", "id"], none, none⟩

def namedChecks : List ReflectedCheck := [⟨some "id_positive", "id > 0"⟩, ⟨some "owner_positive", "owner > 0"⟩]

def ownerIndexes : List ReflectedIndex := [⟨"by_owner", [some "owner"], false, false⟩, ⟨"by_id", [some "id"], true, false⟩]

def shopTables (orders : ReflectedTable) : List (String × ReflectedTable) :=
  [("orders", orders), ("notes", { shopOrders [] [] [] with checks := none })]

def shop (checks : List ReflectedCheck) : Reflection where
  dialect := "postgresql"
  tables := shopTables (shopOrders checks [ownerKey "people", pairKey] ownerIndexes)
  views := [("recent", ⟨none, []⟩), ("open", ⟨some "SELECT 1", []⟩)]
  refusals := []

def shopAnew (checks : List ReflectedCheck) : Reflection where
  dialect := "postgresql"
  tables := (shopTables (shopOrders checks.reverse [pairKey, ownerKey "people"] ownerIndexes.reverse)).reverse
  views := [("open", ⟨some "SELECT 1", []⟩), ("recent", ⟨none, []⟩)]
  refusals := []

def shopOpened : Moment := ⟨2024, 5, 1, 9, 0, 0, 0, some 0⟩

def shopClosed : Moment := ⟨2024, 5, 1, 18, 30, 0, 0, some 0⟩

theorem shop_relisted (checks : List ReflectedCheck) : (shop checks).Relisted (shopAnew checks) where
  dialect := rfl
  refusals := rfl
  tables := List.reverse_perm ["orders", "notes"]
  relisted name t u ht hu := by
    simp only [shop, shopAnew, shopTables, List.reverse_cons, List.reverse_nil, List.nil_append, List.cons_append,
      List.mem_cons, List.not_mem_nil, or_false, Prod.mk.injEq] at ht hu
    rcases ht with ⟨rfl, rfl⟩ | ⟨rfl, rfl⟩ <;> rcases hu with ⟨hname, rfl⟩ | ⟨hname, rfl⟩
    · exact absurd hname (by decide)
    · exact ⟨rfl, rfl, List.reverse_perm [ownerKey "people", pairKey], .refl _, List.reverse_perm checks,
        List.reverse_perm ownerIndexes⟩
    · exact ⟨rfl, rfl, .refl _, .refl _, .refl _, .refl _⟩
    · exact absurd hname (by decide)
  views := List.reverse_perm (shop checks).views

theorem analyze_relisted_shop : (shop namedChecks).Relisted (shopAnew namedChecks) ∧ (shop namedChecks).NamesDistinct ∧
    ∃ s s', analyze {} (shop namedChecks) shopOpened = .ok s ∧ analyze {} (shopAnew namedChecks) shopClosed = .ok s' ∧
      s'.views = s.views ∧ s'.tables = s.tables ∧ s'.indexes = s.indexes := by
  have hnames : (shop namedChecks).NamesDistinct := ⟨by decide, by decide⟩
  have happart : ∀ item ∈ kept {} (shop namedChecks).tables, item.2.Apart item.1 := by
    intro item hitem
    have hmem := mem_of_kept hitem
    simp only [shop, shopTables, List.mem_cons, List.not_mem_nil, or_false] at hmem
    rcases hmem with rfl | rfl
    · exact ⟨by decide, by decide, by decide, by decide⟩
    · exact ⟨by decide, by decide, by decide, by decide⟩
  refine ⟨shop_relisted namedChecks, hnames, ?_⟩
  rcases analyze_relisted {} (shop_relisted namedChecks) hnames shopOpened shopClosed with
    ⟨f, hf, _⟩ | ⟨s, s', hs, hs', hviews, -, hrest⟩
  · obtain ⟨s, hs⟩ := exists_look (r := shop namedChecks) ⟨rfl, by decide⟩ {} shopOpened
    rw [analyze, hs] at hf
    cases hf
  · exact ⟨s, s', hs, hs', hviews, hrest happart⟩

def unnamedChecks : List ReflectedCheck := [⟨none, "id > 0"⟩, ⟨none, "owner > 0"⟩]

/-- A check without a name is named by its place, so of two such checks each takes the name of the other. -/
example : ((shopOrders unnamedChecks.reverse [] []).listed "orders").filter (·.name = "orders_1_check") ≠
    ((shopOrders unnamedChecks [] []).listed "orders").filter (·.name = "orders_1_check") := by
  decide

end Analyzer

end SchemaConcord
