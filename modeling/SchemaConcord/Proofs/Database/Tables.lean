import SchemaConcord.Proofs.Database.Capture

/-!
# Tables of a capture

Every table of a capture comes from one that the database lists (`table_of_look`), and each of its constraints from the
key, a foreign key, a unique constraint or a check of that one (`mem_constraints`), by its kind. What marks a column as
unique is a constraint on it or an index that names it only (`mem_uniqueColumns`).

A column is marked as unique when a unique constraint or a unique index is over it alone (`UniqueAlone`). It is also
marked when a unique index is over it and expressions, which make it no unique column (`UniqueAmid`): of the parts of an
index only names are looked at. Nothing else marks a column (`marked_unique`).
-/

namespace SchemaConcord

namespace Analyzer

variable {a : Analyzer} {r : Reflection} {now : Moment} {s : Snapshot}

theorem look_of_analyze (h : a.analyze r now = .ok s) : a.look r now = .ok s := by
  unfold analyze at h
  cases hl : a.look r now with
  | error f =>
    rw [hl] at h
    cases h
  | ok s' =>
    rw [hl] at h
    cases h
    rfl

theorem tableNames_of_look (h : a.look r now = .ok s) : s.tableNames = (a.kept r.tables).map (·.1) := by
  obtain ⟨_, _, htables, _⟩ := look_ok h
  refine map_of_mapM (fun item t ht => ?_) htables
  obtain ⟨_, _, rfl⟩ := tableOf_ok ht
  rfl

theorem indexesOf_ok {item : String × ReflectedTable} {l : List Index} (h : indexesOf r item = .ok l) :
    l = (item.2.indexes.filter (!·.duplicatesConstraint)).map (ReflectedIndex.toIndex item.1) := by
  unfold indexesOf at h
  obtain ⟨indexes, hindexes, h⟩ := bind_eq_ok h
  rw [ask_ok hindexes] at h
  exact (Except.ok.inj h).symm

/-- The indexes of a capture are those of its tables that stand behind no constraint. -/
theorem indexes_of_look (hi : a.includeIndexes = true) (h : a.look r now = .ok s) : ∃ l, s.indexes = some l ∧
    ∀ i, i ∈ l ↔ ∃ item ∈ a.kept r.tables, ∃ raw ∈ item.2.indexes, raw.duplicatesConstraint = false ∧
      raw.toIndex item.1 = i := by
  obtain ⟨_, _, _, hindexes, _⟩ := look_ok h
  unfold lookIndexes at hindexes
  rw [if_pos hi] at hindexes
  cases hall : (a.kept r.tables).mapM (indexesOf r) with
  | error f =>
    rw [hall] at hindexes
    cases hindexes
  | ok all =>
    rw [hall] at hindexes
    refine ⟨_, (Except.ok.inj hindexes).symm, fun i => ?_⟩
    rw [List.mem_mergeSort, List.mem_flatten]
    constructor
    · rintro ⟨l, hl, hi⟩
      obtain ⟨item, hitem, hok⟩ := mem_mapM hall l hl
      rw [indexesOf_ok hok] at hi
      obtain ⟨raw, hraw, rfl⟩ := List.mem_map.mp hi
      obtain ⟨hraw, hbehind⟩ := List.mem_filter.mp hraw
      exact ⟨item, hitem, raw, hraw, by simpa using hbehind, rfl⟩
    · rintro ⟨item, hitem, raw, hraw, hbehind, rfl⟩
      obtain ⟨l, hl, hok⟩ := mem_of_mapM hall item hitem
      refine ⟨l, hl, ?_⟩
      rw [indexesOf_ok hok]
      exact List.mem_map_of_mem (List.mem_filter.mpr ⟨hraw, by rw [hbehind]; rfl⟩)

theorem views_of_look (hv : a.includeViews = true) (h : a.look r now = .ok s) : ∃ l, s.views = some l := by
  obtain ⟨_, _, _, _, hviews⟩ := look_ok h
  unfold lookViews at hviews
  rw [if_pos hv] at hviews
  obtain ⟨listed, _, hviews⟩ := bind_eq_ok hviews
  cases hall : (byName listed).mapM (viewOf r) with
  | error f =>
    rw [hall] at hviews
    cases hviews
  | ok all =>
    rw [hall] at hviews
    exact ⟨all, (Except.ok.inj hviews).symm⟩

end Analyzer

theorem ReflectedForeignKey.reference?_eq_some {k : ReflectedForeignKey} {column : String} {c : ColumnReference} : k.reference? = some (column, c) ↔
    k.columns = [column] ∧ k.targetColumns = [c.column] ∧ k.targetTable = c.table ∧ k.onDelete = c.onDelete ∧
      k.onUpdate = c.onUpdate := by
  unfold reference?
  constructor
  · intro h
    split at h
    · next hcolumns htarget =>
      cases h
      exact ⟨hcolumns, htarget, rfl, rfl, rfl⟩
    · cases h
  · rintro ⟨hcolumns, htarget, htable, hdelete, hupdate⟩
    simp only [hcolumns, htarget, htable, hdelete, hupdate]

theorem ReflectedKey.toPrimaryKey?_some {k : ReflectedKey} {name : String} {c : Constraint}
    (h : k.toPrimaryKey? name = some c) : k.columns.isEmpty = false ∧ c.kind = .primaryKey ∧ c.columns = k.columns ∧
      c.referencesTable = none ∧ c.referencesColumns = none := by
  unfold toPrimaryKey? at h
  split at h
  · cases h
  · next hne =>
    cases h
    exact ⟨Bool.not_eq_true _ ▸ hne, rfl, rfl, rfl, rfl⟩

theorem sole?_eq_some {α : Type} {l : List α} {b : α} : sole? l = some b ↔ l = [b] := by
  unfold sole?
  split
  · rw [Option.some.injEq, List.singleton_inj]
  · next h => exact iff_of_false (fun h => nomatch h) (h b)

namespace ReflectedTable

variable {t : ReflectedTable} {name : String} {c : Constraint}

theorem mem_constraints : c ∈ t.constraints name ↔ t.primaryKey.toPrimaryKey? name = some c ∨
    (∃ k ∈ t.foreignKeys, k.toConstraint name = c) ∨ (∃ k ∈ t.uniques, k.toUnique name = c) ∨
    ∃ f ∈ (t.checks.getD []).zipIdx 1, f.1.toConstraint name f.2 = c := by
  unfold constraints
  rw [List.mem_mergeSort]
  simp only [List.mem_append, Option.mem_toList, List.mem_map, or_assoc]

section
variable (h : c ∈ t.constraints name)

include h

theorem primaryKey_of_mem (hkind : c.kind = .primaryKey) :
    t.primaryKey.columns.isEmpty = false ∧ c.columns = t.primaryKey.columns := by
  rcases mem_constraints.mp h with h | ⟨k, _, rfl⟩ | ⟨k, _, rfl⟩ | ⟨f, _, rfl⟩
  · obtain ⟨hne, _, hcolumns, _⟩ := ReflectedKey.toPrimaryKey?_some h
    exact ⟨hne, hcolumns⟩
  all_goals cases hkind

theorem foreignKey_of_mem (hkind : c.kind = .foreignKey) : ∃ k ∈ t.foreignKeys, k.toConstraint name = c := by
  rcases mem_constraints.mp h with h | h | ⟨k, _, rfl⟩ | ⟨f, _, rfl⟩
  · obtain ⟨_, hkey, _⟩ := ReflectedKey.toPrimaryKey?_some h
    cases hkey.symm.trans hkind
  · exact h
  all_goals cases hkind

theorem unique_of_mem (hkind : c.kind = .unique) : ∃ k ∈ t.uniques, k.toUnique name = c := by
  rcases mem_constraints.mp h with h | ⟨k, _, rfl⟩ | h | ⟨f, _, rfl⟩
  · obtain ⟨_, hkey, _⟩ := ReflectedKey.toPrimaryKey?_some h
    cases hkey.symm.trans hkind
  · cases hkind
  · exact h
  · cases hkind

theorem check_of_mem (hkind : c.kind = .check) : ∃ text, c.definition = "CHECK (" ++ text ++ ")" := by
  rcases mem_constraints.mp h with h | ⟨k, _, rfl⟩ | ⟨k, _, rfl⟩ | ⟨f, _, rfl⟩
  · obtain ⟨_, hkey, _⟩ := ReflectedKey.toPrimaryKey?_some h
    cases hkey.symm.trans hkind
  · cases hkind
  · cases hkind
  · exact ⟨_, rfl⟩

end

theorem exists_primaryKey (name : String) (h : t.primaryKey.columns.isEmpty = false) :
    ∃ c ∈ t.constraints name, c.kind = .primaryKey ∧ c.columns = t.primaryKey.columns := by
  refine ⟨⟨givenName t.primaryKey.name (derivedName name [] "pkey"), .primaryKey, t.primaryKey.columns,
    "PRIMARY KEY (" ++ columnList t.primaryKey.columns ++ ")", none, none⟩, mem_constraints.mpr (.inl ?_), rfl, rfl⟩
  unfold ReflectedKey.toPrimaryKey?
  rw [h, if_neg Bool.false_ne_true]

/-- The key of a table follows from its constraints. -/
theorem primaryKey_eq {u : ReflectedTable}
    (h : ∀ c ∈ t.constraints name, ∃ d ∈ u.constraints name, d.kind = c.kind ∧ d.columns = c.columns)
    (h' : ∀ d ∈ u.constraints name, ∃ c ∈ t.constraints name, c.kind = d.kind ∧ c.columns = d.columns) :
    t.primaryKey.columns = u.primaryKey.columns := by
  cases ht : t.primaryKey.columns.isEmpty with
  | false =>
    obtain ⟨c, hc, hkind, hcolumns⟩ := exists_primaryKey name ht
    obtain ⟨d, hd, hkind', hcolumns'⟩ := h c hc
    rw [← hcolumns, ← hcolumns', (primaryKey_of_mem hd (hkind'.trans hkind)).2]
  | true =>
    cases hu : u.primaryKey.columns.isEmpty with
    | false =>
      obtain ⟨d, hd, hkind, hcolumns⟩ := exists_primaryKey name hu
      obtain ⟨c, hc, hkind', hcolumns'⟩ := h' d hd
      have hne := (primaryKey_of_mem hc (hkind'.trans hkind)).1
      rw [ht] at hne
      cases hne
    | true => rw [List.isEmpty_iff.mp ht, List.isEmpty_iff.mp hu]

theorem mem_uniqueColumns {includeIndexes : Bool} {column : String} : column ∈ t.uniqueColumns includeIndexes ↔
    (∃ k ∈ t.uniques, k.columns = [column]) ∨
      includeIndexes = true ∧ ∃ i ∈ t.indexes, i.unique = true ∧ i.named = [column] := by
  unfold uniqueColumns
  rw [List.mem_append, List.mem_filterMap]
  cases includeIndexes with
  | false => simp [sole?_eq_some]
  | true => simp [sole?_eq_some, and_assoc]

end ReflectedTable

/-! ## Columns marked as unique -/

/-- The name of one column stands among the parts of an index, and no other name. -/
def ReflectedIndex.NamesOnly (i : ReflectedIndex) (column : String) : Prop :=
  column ≠ "" ∧ ∃ before after, i.columns = before ++ some column :: after ∧
    ∀ part ∈ before ++ after, part = none ∨ part = some ""

theorem ReflectedIndex.named_eq_singleton {i : ReflectedIndex} {column : String} :
    i.named = [column] ↔ i.NamesOnly column := by
  have hnameless : ∀ part : Option String,
      part.filter (fun name => !name.isEmpty) = none ↔ part = none ∨ part = some "" := by
    intro part
    cases part with
    | none => simp
    | some name => simp [Option.filter_some]
  have hname : ∀ part : Option String,
      part.filter (fun name => !name.isEmpty) = some column ↔ part = some column ∧ column ≠ "" := by
    intro part
    rw [Option.filter_eq_some_iff]
    simp
  have hnamed : i.named = i.columns.filterMap fun part => part.filter fun name => !name.isEmpty :=
    List.filter_filterMap ..
  rw [hnamed, List.filterMap_eq_cons_iff]
  constructor
  · rintro ⟨before, part, after, hcolumns, hbefore, hpart, hafter⟩
    obtain ⟨rfl, hne⟩ := (hname part).mp hpart
    refine ⟨hne, before, after, hcolumns, ?_⟩
    intro part hpart
    apply (hnameless part).mp
    rcases List.mem_append.mp hpart with h | h
    · exact hbefore part h
    · exact List.filterMap_eq_nil_iff.mp hafter part h
  · rintro ⟨hne, before, after, hcolumns, hothers⟩
    refine ⟨before, some column, after, hcolumns, ?_, (hname _).mpr ⟨rfl, hne⟩, List.filterMap_eq_nil_iff.mpr ?_⟩
    · exact fun part h => (hnameless part).mpr (hothers part (List.mem_append_left after h))
    · exact fun part h => (hnameless part).mpr (hothers part (List.mem_append_right before h))

namespace ReflectedTable

variable {t : ReflectedTable} {includeIndexes : Bool} {column : String}

/-- A unique constraint, or a unique index if indexes are looked at, is over one column and nothing else. -/
def UniqueAlone (t : ReflectedTable) (includeIndexes : Bool) (column : String) : Prop :=
  (∃ k ∈ t.uniques, k.columns = [column]) ∨
    includeIndexes = true ∧ ∃ i ∈ t.indexes, i.unique = true ∧ i.columns = [some column]

/-- A unique index that is looked at is over one column and parts without a name, such as expressions. -/
def UniqueAmid (t : ReflectedTable) (includeIndexes : Bool) (column : String) : Prop :=
  includeIndexes = true ∧ ∃ i ∈ t.indexes, i.unique = true ∧ i.NamesOnly column ∧ i.columns ≠ [some column]

theorem uniqueAlone_or_uniqueAmid_iff (h : column ≠ "") : t.UniqueAlone includeIndexes column ∨
    t.UniqueAmid includeIndexes column ↔ column ∈ t.uniqueColumns includeIndexes := by
  rw [mem_uniqueColumns]
  simp only [ReflectedIndex.named_eq_singleton]
  have halone : ∀ i : ReflectedIndex, i.columns = [some column] → i.NamesOnly column := by
    intro i hi
    exact ⟨h, [], [], hi, nofun⟩
  constructor
  · rintro ((hk | ⟨hinclude, i, hi, hunique, hcolumns⟩) | ⟨hinclude, i, hi, hunique, honly, -⟩)
    · exact .inl hk
    · exact .inr ⟨hinclude, i, hi, hunique, halone i hcolumns⟩
    · exact .inr ⟨hinclude, i, hi, hunique, honly⟩
  · rintro (hk | ⟨hinclude, i, hi, hunique, honly⟩)
    · exact .inl (.inl hk)
    · by_cases hcolumns : i.columns = [some column]
      · exact .inl (.inr ⟨hinclude, i, hi, hunique, hcolumns⟩)
      · exact .inr ⟨hinclude, i, hi, hunique, honly, hcolumns⟩

/-- An index never marks a column without a name. -/
theorem nameless_mem_uniqueColumns : "" ∈ t.uniqueColumns includeIndexes ↔ ∃ k ∈ t.uniques, k.columns = [""] := by
  rw [mem_uniqueColumns]
  apply or_iff_left
  rintro ⟨-, i, -, -, hnamed⟩
  exact (ReflectedIndex.named_eq_singleton.mp hnamed).1 rfl

/-- The columns of a table are marked as what the database says of it has them. -/
def Marks (t : ReflectedTable) (includeIndexes : Bool) (u : Table) : Prop := ∀ c ∈ u.columns,
  (c.name ≠ "" → (c.unique = true ↔ t.UniqueAlone includeIndexes c.name ∨ t.UniqueAmid includeIndexes c.name)) ∧
    (c.name = "" → (c.unique = true ↔ ∃ k ∈ t.uniques, k.columns = [""]))

theorem marks_toTable (t : ReflectedTable) (dialect : String) (includeIndexes : Bool) (name : String)
    (columns : List ReflectedColumn) : t.Marks includeIndexes (t.toTable dialect includeIndexes name columns) := by
  intro c hc
  obtain ⟨raw, -, rfl⟩ := List.mem_map.mp hc
  have hunique : (t.toColumn dialect includeIndexes raw).unique = true ↔
      raw.name ∈ t.uniqueColumns includeIndexes := List.contains_iff_mem
  constructor
  · intro hne
    exact hunique.trans (uniqueAlone_or_uniqueAmid_iff hne).symm
  · intro hempty
    have hempty : raw.name = "" := hempty
    rw [hunique, hempty]
    exact nameless_mem_uniqueColumns

end ReflectedTable

namespace Analyzer

variable {a : Analyzer} {r : Reflection} {now : Moment} {s : Snapshot}

/-- Every table that is not left out has its columns marked, and no column of a capture is marked otherwise. -/
theorem marked_unique (h : a.analyze r now = .ok s) :
    (∀ item ∈ r.tables, a.excludes item.1 = false →
      ∃ u ∈ s.tables, u.name = item.1 ∧ item.2.Marks a.includeIndexes u) ∧
    ∀ u ∈ s.tables, ∃ item ∈ r.tables, a.excludes item.1 = false ∧ u.name = item.1 ∧
      item.2.Marks a.includeIndexes u := by
  have hlook := look_of_analyze h
  obtain ⟨-, -, htables, -⟩ := look_ok hlook
  constructor
  · intro item hitem hkept
    obtain ⟨u, hu, htable⟩ := mem_of_mapM htables item (mem_kept.mpr ⟨hitem, hkept⟩)
    obtain ⟨columns, -, rfl⟩ := tableOf_ok htable
    exact ⟨_, hu, rfl, ReflectedTable.marks_toTable _ _ _ _ _⟩
  · intro u hu
    obtain ⟨item, hitem, columns, -, rfl⟩ := table_of_look hlook hu
    obtain ⟨hitem, hkept⟩ := mem_kept.mp hitem
    exact ⟨item, hitem, hkept, rfl, ReflectedTable.marks_toTable _ _ _ _ _⟩

/-- A table with an index over a column and an expression. -/
def people : ReflectedTable where
  columns := some [⟨"id", .text "INTEGER", false, none, false, false⟩, ⟨"email", .text "VARCHAR(80)", true, none, false, false⟩]
  primaryKey := ⟨none, ["id"]⟩
  foreignKeys := []
  uniques := []
  checks := none
  indexes := [⟨"by_email", [some "email", none], true, false⟩]

theorem marked_unique_people :
    let r : Reflection := ⟨"postgresql", [("people", people)], [], []⟩
    (∃ s, ({} : Analyzer).analyze r ⟨2024, 5, 1, 12, 0, 0, 0, some 0⟩ = .ok s ∧
      ∃ u ∈ s.tables, u.name = "people" ∧ people.Marks true u) ∧
    people.UniqueAmid true "email" ∧ ¬ people.UniqueAlone true "email" := by
  intro r
  obtain ⟨s, hs⟩ := exists_look (r := r) ⟨rfl, by decide⟩ {} ⟨2024, 5, 1, 12, 0, 0, 0, some 0⟩
  have hanalyze : ({} : Analyzer).analyze r ⟨2024, 5, 1, 12, 0, 0, 0, some 0⟩ = .ok s := by
    rw [analyze, hs]
    rfl
  refine ⟨⟨s, hanalyze, (marked_unique hanalyze).1 ("people", people) (List.mem_singleton_self _) (by decide)⟩, ?_, ?_⟩
  · exact ⟨rfl, _, List.mem_singleton_self _, rfl, ⟨by decide, [], [none], rfl, by simp⟩, by decide⟩
  · simp [ReflectedTable.UniqueAlone, people]

end Analyzer

end SchemaConcord
