import Mathlib
import SchemaConcord.Proofs.Database.Legible
import SchemaConcord.Proofs.Drift.Coverage

/-!
# What a comparison of captures notices

Two captures that differ in a compared field never compare as equal, and where the databases are legible neither do two
that differ in a column's flag of uniqueness or in what it refers to, since the constraints and indexes tell them again
(`compare_ne_nil`).
-/

namespace SchemaConcord

theorem Column.told_eq {c d : Column} (h : Scope.compared.column c = Scope.compared.column d) (hunique : c.unique = d.unique)
    (hreferences : c.references.map (fun r => { r with onUpdate := none }) =
      d.references.map fun r => { r with onUpdate := none }) : Scope.told.column c = Scope.told.column d := by
  simp only [Scope.compared, Column.mk.injEq] at h
  obtain ⟨hname, htype, hnullable, _, _, hdefault, _⟩ := h
  simp only [Scope.told, hname, htype, hnullable, hdefault, hunique, hreferences]

namespace ReflectedTable

variable {t u : ReflectedTable} {name : String}

theorem toTable_primaryKey {dialect dialect' : String} {columns columns' : List ReflectedColumn}
    {includeIndexes includeIndexes' : Bool} (h : t.primaryKey.columns = u.primaryKey.columns) :
    (t.toTable dialect includeIndexes name columns).primaryKey =
      (u.toTable dialect' includeIndexes' name columns').primaryKey := by
  unfold toTable
  rw [h]

theorem constraints_subset (ht : t.Legible) (hu : u.Legible)
    (h : Matched Constraint.name (fun c d => Scope.compared.constraint c = Scope.compared.constraint d)
      (t.constraints name) (u.constraints name)) : t.constraints name ⊆ u.constraints name := by
  intro c hc
  obtain ⟨d, hd, hname, hsame⟩ := h.exists_partner hc
  simp only [Scope.compared, Constraint.mk.injEq] at hsame
  rw [constraint_eq ht hu hc hd hname.symm hsame.2.1 hsame.2.2.1 hsame.2.2.2.1]
  exact hd

theorem reference?_told (ht : t.Legible) (hu : u.Legible) (h : t.constraints name ⊆ u.constraints name)
    (h' : u.constraints name ⊆ t.constraints name) (column : String) :
    (t.reference? column).map (fun r => { r with onUpdate := none }) =
      (u.reference? column).map fun r => { r with onUpdate := none } := by
  cases hr : t.reference? column with
  | some r =>
    obtain ⟨onUpdate, hr'⟩ := reference?_of_subset h ht hu hr
    rw [hr']
    rfl
  | none =>
    cases hr' : u.reference? column with
    | some r' =>
      obtain ⟨onUpdate, hsome⟩ := reference?_of_subset h' hu ht hr'
      cases hr.symm.trans hsome
    | none => rfl

end ReflectedTable

namespace Analyzer

/-- The schema of a database with its views and indexes, in which names tell the parts apart. -/
structure Captures (a : Analyzer) (r : Reflection) (now : Moment) (s : Snapshot) : Prop where
  indexes : a.includeIndexes = true
  views : a.includeViews = true
  captured : a.analyze r now = .ok s
  names : s.NamesDistinct

variable {a a' : Analyzer} {r r' : Reflection} {now now' : Moment} {s s' : Snapshot}

namespace Captures

theorem exists_indexes (h : a.Captures r now s) : ∃ l, s.indexes = some l ∧ ∀ i, i ∈ l ↔ ∃ item ∈ a.kept r.tables,
    ∃ raw ∈ item.2.indexes, raw.duplicatesConstraint = false ∧ raw.toIndex item.1 = i :=
  indexes_of_look h.indexes (look_of_analyze h.captured)

theorem exists_views (h : a.Captures r now s) : ∃ l, s.views = some l :=
  views_of_look h.views (look_of_analyze h.captured)

theorem kept_nodup (h : a.Captures r now s) : ((a.kept r.tables).map (·.1)).Nodup := by
  rw [← tableNames_of_look (look_of_analyze h.captured)]
  exact h.names.tables

theorem exists_item (h : a.Captures r now s) {t : Table} (ht : t ∈ s.tables) : ∃ item ∈ a.kept r.tables, ∃ columns,
    t = item.2.toTable r.dialect true item.1 columns := by
  obtain ⟨item, hitem, columns, _, rfl⟩ := table_of_look (look_of_analyze h.captured) ht
  exact ⟨item, hitem, columns, by rw [h.indexes]⟩

theorem index_table (h : a.Captures r now s) {l : List Index} (hl : s.indexes = some l) {i : Index} (hi : i ∈ l) :
    ∃ item ∈ a.kept r.tables, i.table = item.1 := by
  obtain ⟨l', hl', hmem⟩ := h.exists_indexes
  cases hl.symm.trans hl'
  obtain ⟨item, hitem, raw, _, _, rfl⟩ := (hmem i).mp hi
  exact ⟨item, hitem, rfl⟩

theorem index_table_mem (h : a.Captures r now s) {l : List Index} (hl : s.indexes = some l) {i : Index} (hi : i ∈ l) :
    i.table ∈ s.tableNames := by
  obtain ⟨item, hitem, htable⟩ := h.index_table hl hi
  rw [tableNames_of_look (look_of_analyze h.captured), htable]
  exact List.mem_map_of_mem hitem

theorem agrees (h : a.Captures r now s) (h' : a'.Captures r' now' s') (hnil : s.compare s' = []) :
    s.Agrees .compared s' := by
  have hsame := Snapshot.not_differs h.names h'.names hnil
  constructor
  case tables => exact Snapshot.agrees_tables hsame
  case indexes =>
    intro l l' hl hl'
    exact Snapshot.agrees_indexes hsame hl hl' (fun i hi => h.index_table_mem hl hi) fun j hj => h'.index_table_mem hl' hj
  case views =>
    intro l l' hl hl'
    exact Snapshot.agrees_views hsame hl hl'

/-! ## From agreement to sameness -/

theorem primaryKey_eq (h : a.Captures r now s) (h' : a'.Captures r' now' s') {t u : Table} (ht : t ∈ s.tables)
    (hu : u ∈ s'.tables) (hname : t.name = u.name) (hagrees : t.Agrees .compared u) : t.primaryKey = u.primaryKey := by
  have hpartner : ∀ {t u : Table}, t.Agrees .compared u → ∀ c ∈ t.constraints, ∃ d ∈ u.constraints,
      d.kind = c.kind ∧ d.columns = c.columns := by
    intro t u hagrees c hc
    obtain ⟨d, hd, _, hsame⟩ := hagrees.constraints.exists_partner hc
    simp only [Scope.compared, Constraint.mk.injEq] at hsame
    exact ⟨d, hd, hsame.2.1.symm, hsame.2.2.1.symm⟩
  obtain ⟨item, _, columns, rfl⟩ := h.exists_item ht
  obtain ⟨item', _, columns', rfl⟩ := h'.exists_item hu
  have hname : item.1 = item'.1 := hname
  have hforth := hpartner hagrees
  have hback := hpartner hagrees.symm
  rw [← hname] at hforth hback ⊢
  exact ReflectedTable.toTable_primaryKey (ReflectedTable.primaryKey_eq hforth hback)

theorem sameIn (h : a.Captures r now s) (h' : a'.Captures r' now' s') (hcompared : s.Agrees .compared s') {f : Scope}
    (hf : s.Agrees f s') : s.SameIn f s' := by
  obtain ⟨l, hl, _⟩ := h.exists_indexes
  obtain ⟨l', hl', _⟩ := h'.exists_indexes
  obtain ⟨v, hv⟩ := h.exists_views
  obtain ⟨v', hv'⟩ := h'.exists_views
  constructor
  case names => exact hf.tables.names_perm h.names.tables h'.names.tables
  case tables =>
    intro t ht u hu hname
    have hagrees := hf.tables.pair t ht u hu hname.symm
    constructor
    case columns => exact hagrees.columns.map_perm (h.names.columns t ht) (h'.names.columns u hu) f.column_name
    case primaryKey => exact h.primaryKey_eq h' ht hu hname (hcompared.tables.pair t ht u hu hname.symm)
    case constraints =>
      exact hagrees.constraints.map_perm (h.names.constraints t ht) (h'.names.constraints u hu) f.constraint_name
  case indexes =>
    rw [hl, hl']
    exact (hf.indexes l l' hl hl').map_perm (h.names.indexes l hl) (h'.names.indexes l' hl') f.index_key
  case views =>
    rw [hv, hv']
    exact (hf.views v v' hv hv').map_perm (h.names.views v hv) (h'.names.views v' hv') f.view_name

/-! ## Legible databases -/

section
variable (h : a.Captures r now s) (h' : a'.Captures r' now' s') (hl : a.Legible r) (hl' : a'.Legible r')
  (hagrees : s.Agrees .compared s')

include h h' hl hl' hagrees

theorem index_eq {l l' : List Index} (hi : s.indexes = some l) (hj : s'.indexes = some l') {i j : Index} (hil : i ∈ l)
    (hjl : j ∈ l') (hkey : j.key = i.key) : i = j := by
  obtain ⟨item, hitem, htable⟩ := h.index_table hi hil
  obtain ⟨item', hitem', htable'⟩ := h'.index_table hj hjl
  have hdot : ∀ i : Index, i.key.toList = i.table.toList ++ '.' :: i.name.toList := by
    intro i
    simp [Index.key]
  have hlists := congrArg String.toList hkey.symm
  rw [hdot, hdot] at hlists
  obtain ⟨htables, hnames⟩ := divided_inj (htable ▸ hl.names item hitem) (htable' ▸ hl'.names item' hitem') hlists
  have hsame := (hagrees.indexes l l' hi hj).pair i hil j hjl hkey
  cases i
  cases j
  simp only [Scope.compared, Index.mk.injEq] at hsame
  simp only at htables hnames
  rw [String.toList_inj.mp htables, String.toList_inj.mp hnames, hsame.2.2.1, hsame.2.2.2]

/-- A unique index of one capture is one of the other's. -/
theorem exists_raw {item item' : String × ReflectedTable} (hitem : item ∈ a.kept r.tables)
    (hitem' : item' ∈ a'.kept r'.tables) (hname : item.1 = item'.1) {i : ReflectedIndex} (hi : i ∈ item.2.indexes)
    (hunique : i.unique = true) (hbehind : i.duplicatesConstraint = false) :
    ∃ j ∈ item'.2.indexes, j.unique = true ∧ j.named = i.named := by
  obtain ⟨l, hli, hmem⟩ := h.exists_indexes
  obtain ⟨l', hlj, hmem'⟩ := h'.exists_indexes
  have hil := (hmem (i.toIndex item.1)).mpr ⟨item, hitem, i, hi, hbehind, rfl⟩
  obtain ⟨j, hjl, hkey, _⟩ := (hagrees.indexes l l' hli hlj).exists_partner hil
  have heq := index_eq h h' hl hl' hagrees hli hlj hil hjl hkey
  obtain ⟨item₂, hitem₂, raw, hraw, _, hj⟩ := (hmem' j).mp hjl
  rw [← hj] at heq
  have hitems : item₂ = item' := eq_of_name h'.kept_nodup hitem₂ hitem'
    ((congrArg Index.table heq).symm.trans hname)
  refine ⟨raw, hitems ▸ hraw, ?_, (congrArg Index.columns heq).symm⟩
  exact (congrArg Index.unique heq).symm.trans hunique

theorem uniqueColumns_subset {item item' : String × ReflectedTable} (hitem : item ∈ a.kept r.tables)
    (hitem' : item' ∈ a'.kept r'.tables) (hname : item.1 = item'.1)
    (hsub : item.2.constraints item.1 ⊆ item'.2.constraints item.1) :
    item.2.uniqueColumns true ⊆ item'.2.uniqueColumns true := by
  intro column hcolumn
  refine ReflectedTable.uniqueColumns_of_subset hsub (hl.tables item hitem) (fun i hi hunique hbehind => ?_) hcolumn
  exact exists_raw h h' hl hl' hagrees hitem hitem' hname hi hunique hbehind

theorem table_told {t u : Table} (ht : t ∈ s.tables) (hu : u ∈ s'.tables) (hname : u.name = t.name) :
    t.Agrees .told u := by
  have htable := hagrees.tables.pair t ht u hu hname
  obtain ⟨item, hitem, columns, rfl⟩ := h.exists_item ht
  obtain ⟨item', hitem', columns', rfl⟩ := h'.exists_item hu
  have hname : item'.1 = item.1 := hname
  have hlegible := hl.tables item hitem
  have hlegible' := hl'.tables item' hitem'
  have hsub : item.2.constraints item.1 ⊆ item'.2.constraints item.1 :=
    ReflectedTable.constraints_subset hlegible hlegible' (hname ▸ htable.constraints)
  have hsub' : item'.2.constraints item.1 ⊆ item.2.constraints item.1 :=
    ReflectedTable.constraints_subset hlegible' hlegible (hname ▸ htable.symm.constraints)
  have hunique := uniqueColumns_subset h h' hl hl' hagrees hitem hitem' hname.symm hsub
  have hunique' := uniqueColumns_subset h' h hl' hl hagrees.symm hitem' hitem hname (hname.symm ▸ hsub')
  -- Uniqueness and references come from the constraints, which are the same on both sides.
  constructor
  case columns =>
    refine htable.columns.imp fun c hc d hd hcd hsame => ?_
    obtain ⟨raw, _, rfl⟩ := List.mem_map.mp hc
    obtain ⟨raw', _, rfl⟩ := List.mem_map.mp hd
    have hcd : raw'.name = raw.name := hcd
    refine Column.told_eq hsame ?_ ?_
    · show (item.2.uniqueColumns true).contains raw.name = (item'.2.uniqueColumns true).contains raw'.name
      rw [hcd, Bool.eq_iff_iff, List.contains_iff_mem, List.contains_iff_mem]
      exact ⟨(hunique ·), (hunique' ·)⟩
    · show (item.2.reference? raw.name).map _ = (item'.2.reference? raw'.name).map _
      rw [hcd]
      exact ReflectedTable.reference?_told hlegible hlegible' hsub hsub' raw.name
  case constraints =>
    refine htable.constraints.imp fun c hc d hd hcd _ => ?_
    exact eq_of_name (h'.names.constraints _ hu) (hname.symm ▸ hsub hc) hd hcd.symm

theorem told : s.Agrees .told s' where
  tables := hagrees.tables.imp fun _ ht _ hu hname _ => table_told h h' hl hl' hagrees ht hu hname
  indexes l l' hi hj := (hagrees.indexes l l' hi hj).imp fun _ hil _ hjl hkey _ =>
    index_eq h h' hl hl' hagrees hi hj hil hjl hkey
  views := hagrees.views

end

end Captures

/-- No difference in a compared field goes unnoticed, and none in what the compared fields tell of legible databases. -/
theorem compare_ne_nil (h : a.Captures r now s) (h' : a'.Captures r' now' s') :
    (¬ s.SameIn .compared s' → s.compare s' ≠ []) ∧
      (a.Legible r → a'.Legible r' → ¬ s.SameIn .told s' → s.compare s' ≠ []) := by
  constructor
  · intro hdiffers hnil
    have hagrees := h.agrees h' hnil
    exact hdiffers (h.sameIn h' hagrees hagrees)
  · intro hl hl' hdiffers hnil
    have hagrees := h.agrees h' hnil
    exact hdiffers (h.sameIn h' hagrees (Captures.told h h' hl hl' hagrees))

end Analyzer

/-! ## Captures at work -/

instance (s : Snapshot) : Decidable s.NamesDistinct :=
  decidable_of_iff (s.tableNames.Nodup ∧ (∀ t ∈ s.tables, t.columnNames.Nodup) ∧
    (∀ t ∈ s.tables, (t.constraints.map (·.name)).Nodup) ∧ (∀ l ∈ s.indexes, (l.map (·.key)).Nodup) ∧
    ∀ l ∈ s.views, (l.map (·.name)).Nodup)
    ⟨fun ⟨h₁, h₂, h₃, h₄, h₅⟩ => ⟨h₁, h₂, h₃, h₄, h₅⟩, fun ⟨h₁, h₂, h₃, h₄, h₅⟩ => ⟨h₁, h₂, h₃, h₄, h₅⟩⟩

/-- A moment to look at databases. -/
def noon : Moment := ⟨2024, 5, 1, 12, 0, 0, 0, some 0⟩

namespace Reflection

/-- What two databases show at noon stands in a relation. -/
def Shows (P : Snapshot → Snapshot → Prop) (r r' : Reflection) : Prop :=
  ∃ s s', Analyzer.Captures {} r noon s ∧ Analyzer.Captures {} r' noon s' ∧ P s s'

def shows? (P : Snapshot → Snapshot → Prop) [DecidableRel P] (r r' : Reflection) : Bool :=
  match Analyzer.analyze {} r noon, Analyzer.analyze {} r' noon with
  | .ok s, .ok s' => s.NamesDistinct ∧ s'.NamesDistinct ∧ P s s'
  | _, _ => false

theorem shows_of_check {P : Snapshot → Snapshot → Prop} [DecidableRel P] {r r' : Reflection}
    (h : shows? P r r' = true) : Shows P r r' := by
  unfold shows? at h
  split at h
  · next s s' hs hs' =>
    obtain ⟨hnames, hnames', hP⟩ := of_decide_eq_true h
    exact ⟨s, s', ⟨rfl, rfl, hs, hnames⟩, ⟨rfl, rfl, hs', hnames'⟩, hP⟩
  · cases h

end Reflection

/-- Notes, each with an author. -/
def notesTable (author : ReflectedColumn) (keys : List ReflectedForeignKey) (indexes : List ReflectedIndex) :
    ReflectedTable :=
  ⟨some [author], ⟨none, []⟩, keys, [], some [], indexes⟩

def authorColumn : ReflectedColumn := ⟨"author", .text "INTEGER", true, none, false, false⟩

def authorKey (name target : String) (onDelete onUpdate : Option String) : ReflectedForeignKey :=
  ⟨some name, ["author"], target, ["id"], onDelete, onUpdate⟩

def authorIndex (name : String) (behind : Bool) : ReflectedIndex := ⟨name, [some "author"], true, behind⟩

def notesDatabase (tables : List (String × ReflectedTable)) : Reflection := ⟨"postgresql", tables, [], []⟩

def notesWith (keys : List ReflectedForeignKey) (indexes : List ReflectedIndex) : Reflection :=
  notesDatabase [("notes", notesTable authorColumn keys indexes)]

def peopleNotes (onDelete : Option String) : Reflection :=
  notesWith [authorKey "p" "people" onDelete none] [authorIndex "by_author" false]

theorem legible_peopleNotes {onDelete : Option String} (h : ∀ d ∈ onDelete, d ≠ "" ∧ Text.uppercase d = d) :
    Analyzer.Legible {} (peopleNotes onDelete) := by
  have hkept : Analyzer.kept {} (peopleNotes onDelete).tables =
      [("notes", notesTable authorColumn [authorKey "p" "people" onDelete none] [authorIndex "by_author" false])] :=
    List.mergeSort_singleton _
  constructor
  case names =>
    rw [hkept, List.forall_mem_singleton]
    show '.' ∉ "notes".toList
    decide
  case tables =>
    rw [hkept, List.forall_mem_singleton]
    constructor
    case foreignKeys =>
      refine List.forall_mem_singleton.mpr ⟨?_, ?_, h⟩
      · show '(' ∉ "people".toList
        decide
      · refine List.forall_mem_singleton.mpr ?_
        decide
    case references => exact List.nodup_singleton _
    case indexes =>
      refine List.forall_mem_singleton.mpr fun _ hbehind => ?_
      cases hbehind

/-- A rule of deletion that is gone shows in the column and in the constraint. -/
theorem compare_ne_nil_notes : ∃ s s', Analyzer.Captures {} (peopleNotes (some "CASCADE")) noon s ∧
    Analyzer.Captures {} (peopleNotes none) noon s' ∧ Analyzer.Legible {} (peopleNotes (some "CASCADE")) ∧
    Analyzer.Legible {} (peopleNotes none) ∧ ¬ s.SameIn .compared s' ∧ ¬ s.SameIn .told s' ∧ s.compare s' ≠ [] := by
  have hcascade : Analyzer.Legible {} (peopleNotes (some "CASCADE")) := legible_peopleNotes (by decide)
  have hplain : Analyzer.Legible {} (peopleNotes none) := legible_peopleNotes (by decide)
  have hshows : Reflection.Shows (fun s s' => ¬ s.SameIn .compared s' ∧ ¬ s.SameIn .told s')
      (peopleNotes (some "CASCADE")) (peopleNotes none) :=
    Reflection.shows_of_check (by decide +kernel)
  obtain ⟨s, s', h, h', hcompared, htold⟩ := hshows
  obtain ⟨_, hlegible⟩ := Analyzer.compare_ne_nil h h'
  exact ⟨s, s', h, h', hcascade, hplain, hcompared, htold, hlegible hcascade hplain htold⟩

/-- Two databases that differ in some field, and whose comparison is empty. -/
def Reflection.Unnoticed (r r' : Reflection) : Prop := Shows (fun s s' => ¬ s.SameIn .whole s' ∧ s.compare s' = []) r r'

/-- Of two keys a column repeats the last. -/
theorem unnoticed_order :
    Reflection.Unnoticed (notesWith [authorKey "p" "people" none none, authorKey "w" "writers" none none] [])
      (notesWith [authorKey "w" "writers" none none, authorKey "p" "people" none none] []) :=
  Reflection.shows_of_check (by cbv)

theorem unnoticed_key :
    Reflection.Unnoticed (notesDatabase [("notes", notesTable authorColumn [] [authorIndex "old.by_author" false]),
        ("notes.old", notesTable authorColumn [] [])])
      (notesDatabase [("notes", notesTable authorColumn [] []),
        ("notes.old", notesTable authorColumn [] [authorIndex "by_author" false])]) :=
  Reflection.shows_of_check (by cbv)

/-- What is outside of the compared fields: a column that counts up, the columns of a view, the rule for a changed
target, a unique index behind a constraint that is not listed, the columns of a target with a comma in a name, the case
of a rule, which of two keys a column repeats, and where the name of a table ends in that of an index. -/
theorem unnoticed_notes :
    Reflection.Unnoticed (notesDatabase [("notes", notesTable authorColumn [] [])])
      (notesDatabase [("notes", notesTable { authorColumn with identity := true } [] [])]) ∧
    Reflection.Unnoticed { notesWith [] [] with views := [("recent", ⟨some "SELECT * FROM notes", [authorColumn]⟩)] }
      { notesWith [] [] with views := [("recent", ⟨some "SELECT * FROM notes", []⟩)] } ∧
    Reflection.Unnoticed (notesWith [authorKey "p" "people" none none] [])
      (notesWith [authorKey "p" "people" none (some "CASCADE")] []) ∧
    Reflection.Unnoticed (notesWith [] [authorIndex "by_author" true]) (notesWith [] []) ∧
    Reflection.Unnoticed (notesWith [⟨some "p", ["author"], "people", ["id, name"], none, none⟩] [])
      (notesWith [⟨some "p", ["author"], "people", ["id", "name"], none, none⟩] []) ∧
    Reflection.Unnoticed (notesWith [authorKey "p" "people" (some "cascade") none] [])
      (notesWith [authorKey "p" "people" (some "CASCADE") none] []) ∧
    Reflection.Unnoticed (notesWith [authorKey "p" "people" none none, authorKey "w" "writers" none none] [])
      (notesWith [authorKey "w" "writers" none none, authorKey "p" "people" none none] []) ∧
    Reflection.Unnoticed (notesDatabase [("notes", notesTable authorColumn [] [authorIndex "old.by_author" false]),
        ("notes.old", notesTable authorColumn [] [])])
      (notesDatabase [("notes", notesTable authorColumn [] []),
        ("notes.old", notesTable authorColumn [] [authorIndex "by_author" false])]) := by
  refine ⟨?_, ?_, ?_, ?_, ?_, ?_, unnoticed_order, unnoticed_key⟩
  all_goals exact Reflection.shows_of_check (by decide +kernel)

end SchemaConcord
