import SchemaConcord.Database.Analysis
import SchemaConcord.Proofs.Lists

/-!
# Captures of a database

A capture is what an analyzer makes of what a database tells. The clock goes into its version and its time only
(`look_takenAt`); columns keep their names (`columnNames_of_look`); and there is a capture of every database that
refuses nothing and tells the columns of each table that it lists (`exists_look`).
-/

namespace SchemaConcord

namespace Reflection

variable {r : Reflection}

/-- The database refuses no inquiry and tells the columns of every table that it lists. -/
structure Complete (r : Reflection) : Prop where
  refusals : r.refusals = []
  columns : ∀ item ∈ r.tables, item.2.columns.isSome = true

/-- No listed table is told to have two columns of one name. -/
def ColumnsDistinct (r : Reflection) : Prop :=
  ∀ item ∈ r.tables, ∀ columns, r.columnsOf item.1 = .ok columns → (columns.map (·.name)).Nodup

theorem ask_of_complete {α : Type} (h : r.Complete) (i : Inquiry) (answer : α) : r.ask i answer = .ok answer := by
  unfold ask
  rw [h.refusals]
  rfl

theorem exists_columnsOf_table (h : r.Complete) {item : String × ReflectedTable} (hitem : item ∈ r.tables) :
    ∃ columns, r.columnsOf item.1 = .ok columns := by
  obtain ⟨t, ht⟩ := exists_lookup hitem
  obtain ⟨columns, hcolumns⟩ : ∃ columns, t.columns = some columns :=
    Option.isSome_iff_exists.mp (h.columns _ (mem_of_lookup ht))
  refine ⟨columns, ?_⟩
  unfold columnsOf
  rw [ask_of_complete h, ht, Option.bind_some, hcolumns]
  rfl

theorem exists_columnsOf_view (h : r.Complete) {item : String × ReflectedView} (hitem : item ∈ r.views) :
    ∃ columns, r.columnsOf item.1 = .ok columns := by
  obtain ⟨view, hview⟩ := exists_lookup hitem
  unfold columnsOf
  rw [ask_of_complete h, hview]
  cases (r.tables.lookup item.1).bind (·.columns) with
  | none => exact ⟨view.columns, rfl⟩
  | some columns => exact ⟨columns, rfl⟩

end Reflection

/-- A schema as it is when it is taken at another moment. -/
def Snapshot.takenAt (s : Snapshot) (m : Moment) : Snapshot := { s with version := m.isoText, capturedAt := m }

namespace Analyzer

variable {a : Analyzer} {r : Reflection} {now : Moment} {s : Snapshot}

/-! ## The parts of a capture -/

def kept (a : Analyzer) (listed : List (String × ReflectedTable)) : List (String × ReflectedTable) :=
  byName (listed.filter fun item => !a.excludes item.1)

def lookIndexes (a : Analyzer) (r : Reflection) (tables : List (String × ReflectedTable)) :
    Except ReflectionFault (Option (List Index)) :=
  if a.includeIndexes then (fun all => some (all.flatten.mergeSort indexLe)) <$> tables.mapM (indexesOf r) else .ok none

def lookViews (a : Analyzer) (r : Reflection) : Except ReflectionFault (Option (List View)) :=
  if a.includeViews then
    r.ask .viewNames r.views >>= fun listed => some <$> (byName listed).mapM (viewOf r)
  else .ok none

theorem look_eq (a : Analyzer) (r : Reflection) (now : Moment) : a.look r now = do
    let listed ← r.ask .tableNames r.tables
    let tables ← (a.kept listed).mapM (a.tableOf r)
    let indexes ← a.lookIndexes r (a.kept listed)
    let views ← a.lookViews r
    return { version := now.isoText, capturedAt := now, tables, views, indexes } := by
  unfold look lookIndexes lookViews kept
  refine bind_congr fun listed => bind_congr fun tables => ?_
  by_cases hi : a.includeIndexes = true
  · simp only [if_pos hi]
    cases (byName (listed.filter fun item => !a.excludes item.1)).mapM (indexesOf r) with
    | error f => rfl
    | ok all =>
      by_cases hv : a.includeViews = true
      · simp only [if_pos hv]
        cases r.ask .viewNames r.views <;> rfl
      · simp only [if_neg hv]
        rfl
  · simp only [if_neg hi]
    by_cases hv : a.includeViews = true
    · simp only [if_pos hv]
      cases r.ask .viewNames r.views <;> rfl
    · simp only [if_neg hv]
      rfl

/-- The clock goes into the version and the time of a capture, and into nothing else. -/
theorem look_takenAt (a : Analyzer) (r : Reflection) (m now : Moment) :
    a.look r now = (a.look r m).map (·.takenAt now) := by
  have hmap : ∀ x : Except ReflectionFault Snapshot, x.map (·.takenAt now) = (fun s => s.takenAt now) <$> x :=
    fun _ => rfl
  rw [hmap, look_eq, look_eq]
  simp only [map_bind, map_pure]
  rfl

theorem ask_ok {α : Type} {i : Inquiry} {answer b : α} (h : r.ask i answer = .ok b) : b = answer := by
  unfold Reflection.ask at h
  split at h <;> cases h
  rfl

theorem look_ok (h : a.look r now = .ok s) : s.version = now.isoText ∧ s.capturedAt = now ∧
    (a.kept r.tables).mapM (a.tableOf r) = .ok s.tables ∧ a.lookIndexes r (a.kept r.tables) = .ok s.indexes ∧
      a.lookViews r = .ok s.views := by
  rw [look_eq] at h
  obtain ⟨listed, hlisted, h⟩ := bind_eq_ok h
  obtain ⟨tables, htables, h⟩ := bind_eq_ok h
  obtain ⟨indexes, hindexes, h⟩ := bind_eq_ok h
  obtain ⟨views, hviews, h⟩ := bind_eq_ok h
  obtain rfl := Except.ok.inj h
  rw [ask_ok hlisted] at htables hindexes
  exact ⟨rfl, rfl, htables, hindexes, hviews⟩

theorem mem_kept {item : String × ReflectedTable} {listed : List (String × ReflectedTable)} :
    item ∈ a.kept listed ↔ item ∈ listed ∧ a.excludes item.1 = false := by
  rw [kept, byName, List.mem_mergeSort, List.mem_filter, Bool.not_eq_true']

theorem mem_of_kept {item : String × ReflectedTable} {listed : List (String × ReflectedTable)}
    (h : item ∈ a.kept listed) : item ∈ listed := (mem_kept.mp h).1

theorem tableOf_ok {item : String × ReflectedTable} {t : Table} (h : a.tableOf r item = .ok t) :
    ∃ columns, r.columnsOf item.1 = .ok columns ∧ t = item.2.toTable r.dialect a.includeIndexes item.1 columns := by
  unfold tableOf at h
  obtain ⟨columns, hcolumns, h⟩ := bind_eq_ok h
  obtain ⟨_, _, h⟩ := bind_eq_ok h
  obtain ⟨_, _, h⟩ := bind_eq_ok h
  obtain ⟨_, _, h⟩ := bind_eq_ok h
  obtain ⟨_, _, h⟩ := bind_eq_ok h
  refine ⟨columns, hcolumns, ?_⟩
  by_cases hi : a.includeIndexes = true
  · simp only [if_pos hi] at h
    obtain ⟨_, _, h⟩ := bind_eq_ok h
    exact (Except.ok.inj h).symm
  · simp only [if_neg hi] at h
    exact (Except.ok.inj h).symm

theorem table_of_look (h : a.look r now = .ok s) {t : Table} (ht : t ∈ s.tables) : ∃ item ∈ a.kept r.tables, ∃ columns,
    r.columnsOf item.1 = .ok columns ∧ t = item.2.toTable r.dialect a.includeIndexes item.1 columns := by
  obtain ⟨_, _, htables, _⟩ := look_ok h
  obtain ⟨item, hitem, ht⟩ := mem_mapM htables t ht
  exact ⟨item, hitem, tableOf_ok ht⟩

theorem columnNames_of_look (h : a.look r now = .ok s) (hr : r.ColumnsDistinct) :
    ∀ t ∈ s.tables, t.columnNames.Nodup := by
  intro t ht
  obtain ⟨item, hitem, columns, hcolumns, rfl⟩ := table_of_look h ht
  have hnames : (item.2.toTable r.dialect a.includeIndexes item.1 columns).columnNames = columns.map (·.name) := by
    show (columns.map _).map _ = _
    rw [List.map_map]
    rfl
  rw [hnames]
  exact hr item (mem_of_kept hitem) columns hcolumns

/-- A database that tells everything can be captured at any moment. -/
theorem exists_look (h : r.Complete) (a : Analyzer) (now : Moment) : ∃ s, a.look r now = .ok s := by
  -- Each of the inquiries of a capture is answered.
  have htable : ∀ item ∈ a.kept r.tables, ∃ t, a.tableOf r item = .ok t := by
    intro item hitem
    obtain ⟨columns, hcolumns⟩ := Reflection.exists_columnsOf_table h (mem_of_kept hitem)
    refine ⟨item.2.toTable r.dialect a.includeIndexes item.1 columns, ?_⟩
    unfold tableOf
    simp only [hcolumns, Reflection.ask_of_complete h, ok_bind]
    split <;> rfl
  have hindex : ∀ item ∈ a.kept r.tables, ∃ l, indexesOf r item = .ok l := by
    intro item _
    unfold indexesOf
    rw [Reflection.ask_of_complete h]
    exact ⟨_, rfl⟩
  have hview : ∀ item ∈ byName r.views, ∃ view, viewOf r item = .ok view := by
    intro item hitem
    rw [byName, List.mem_mergeSort] at hitem
    obtain ⟨columns, hcolumns⟩ := Reflection.exists_columnsOf_view h hitem
    unfold viewOf
    rw [Reflection.ask_of_complete h, hcolumns]
    exact ⟨_, rfl⟩
  obtain ⟨tables, htables⟩ := exists_mapM htable
  obtain ⟨all, hall⟩ := exists_mapM hindex
  obtain ⟨list, hlist⟩ := exists_mapM hview
  have hindexes : ∃ indexes, a.lookIndexes r (a.kept r.tables) = .ok indexes := by
    unfold lookIndexes
    rw [hall]
    split <;> exact ⟨_, rfl⟩
  have hviews : ∃ views, a.lookViews r = .ok views := by
    unfold lookViews
    rw [Reflection.ask_of_complete h, ok_bind, hlist]
    split <;> exact ⟨_, rfl⟩
  obtain ⟨indexes, hindexes⟩ := hindexes
  obtain ⟨views, hviews⟩ := hviews
  rw [look_eq, Reflection.ask_of_complete h, ok_bind, htables, ok_bind, hindexes, ok_bind, hviews]
  exact ⟨_, rfl⟩

end Analyzer

end SchemaConcord
