import SchemaConcord.Drift.Suggest
import SchemaConcord.Proofs.Database.Tables

/-!
# What a restored table imposes

The remedy for a missing table creates it again. The statement has a line for every column, the primary key and the
checks, and other constraints are in it as far as a column's definition says them. So it imposes the key, every check,
every unique constraint on one column, and every foreign key of one column that carries no rule of deletion and is the
only one of its column (`missingTable_imposes`). Of the others nothing is left: the statement is the same without them
(`createSql_checks`).
-/

namespace SchemaConcord

open Text

/-! ## The lines of a statement -/

/-- The parts of a column's definition, in their order. -/
def Column.sqlParts (c : Column) : List String :=
  [Sql.name c.name, uppercase c.type] ++ (if c.nullable then [] else ["NOT NULL"]) ++
    (match c.default with
      | some d => ["DEFAULT " ++ d]
      | none => []) ++
    (if c.unique then ["UNIQUE"] else []) ++
    (match c.references with
      | some r => ["REFERENCES " ++ Sql.name r.table ++ "(" ++ Sql.name r.column ++ ")"]
      | none => [])

theorem Column.unique_mem_sqlParts {c : Column} (h : c.unique = true) : "UNIQUE" ∈ c.sqlParts := by
  simp [sqlParts, h]

theorem Column.references_mem_sqlParts {c : Column} {r : ColumnReference} (h : c.references = some r) :
    "REFERENCES " ++ Sql.name r.table ++ "(" ++ Sql.name r.column ++ ")" ∈ c.sqlParts := by
  simp [sqlParts, h]

namespace Table

/-- The lines between the brackets of the statement that creates a table. -/
def createLines (t : Table) : List String :=
  t.columns.map (fun c => "  " ++ joinWith " " c.sqlParts) ++
    (match t.primaryKey with
      | none => []
      | some [] => []
      | some keys => ["  PRIMARY KEY (" ++ Sql.names keys ++ ")"]) ++
    (t.constraints.filter fun c => c.kind = .check ∧ !c.definition.isEmpty).map fun c =>
      "  CONSTRAINT " ++ Sql.name c.name ++ " " ++ c.definition

variable {t : Table} {c : Constraint}

theorem createSql_eq (t : Table) :
    t.createSql = "CREATE TABLE " ++ Sql.name t.name ++ " (\n" ++ joinWith ",\n" t.createLines ++ "\n);" := rfl

/-- The statement does not look at constraints other than checks. -/
theorem createSql_checks (t : Table) :
    createSql { t with constraints := t.constraints.filter (·.kind = .check) } = t.createSql := by
  have hchecks : (t.constraints.filter (·.kind = .check)).filter (fun c => c.kind = .check ∧ !c.definition.isEmpty) =
      t.constraints.filter fun c => c.kind = .check ∧ !c.definition.isEmpty := by
    rw [List.filter_filter]
    refine List.filter_congr fun c _ => ?_
    by_cases hkind : c.kind = .check <;> simp [hkind]
  unfold createSql
  simp only [hchecks]

/-! ## Constraints that are imposed -/

/-- The statement that creates the table imposes the constraint: by a line in the constraint's own words, as the key,
or in the definition of its only column. There a foreign key keeps its target and its rule of deletion. -/
inductive Imposes (t : Table) (c : Constraint) : Prop
  | line (h : "  CONSTRAINT " ++ Sql.name c.name ++ " " ++ c.definition ∈ t.createLines)
  | key (hkind : c.kind = .primaryKey) (h : "  PRIMARY KEY (" ++ Sql.names c.columns ++ ")" ∈ t.createLines)
  | unique (column : Column) (hkind : c.kind = .unique) (hcolumns : c.columns = [column.name])
      (hcolumn : column ∈ t.columns) (h : "UNIQUE" ∈ column.sqlParts)
  | reference (column : Column) (target other rule : String) (hkind : c.kind = .foreignKey)
      (hcolumns : c.columns = [column.name]) (hcolumn : column ∈ t.columns) (htarget : c.referencesTable = some target)
      (hother : c.referencesColumns = some [other])
      (hdefinition : c.definition =
        "FOREIGN KEY (" ++ column.name ++ ") REFERENCES " ++ target ++ " (" ++ other ++ ")" ++ rule)
      (h : "REFERENCES " ++ Sql.name target ++ "(" ++ Sql.name other ++ ")" ++ rule ∈ column.sqlParts)

/-- The constraint is one that the parts of a table besides its list of constraints tell in full. -/
def Told (t : Table) (c : Constraint) : Prop :=
  match c.kind with
  | .primaryKey | .check => True
  | .unique => ∃ column ∈ t.columnNames, c.columns = [column]
  | .foreignKey => ∃ column ∈ t.columnNames, ∃ target other, c.columns = [column] ∧ c.referencesTable = some target ∧
      c.referencesColumns = some [other] ∧
      c.definition = "FOREIGN KEY (" ++ column ++ ") REFERENCES " ++ target ++ " (" ++ other ++ ")" ∧
      ∀ d ∈ t.constraints, ∀ target' other', d.kind = .foreignKey → d.columns = [column] →
        d.referencesTable = some target' → d.referencesColumns = some [other'] → target' = target ∧ other' = other

end Table

namespace ReflectedTable

variable {t : ReflectedTable} {dialect name column : String} {includeIndexes : Bool} {columns : List ReflectedColumn}
  {c : Constraint}

theorem exists_column (h : column ∈ (t.toTable dialect includeIndexes name columns).columnNames) :
    ∃ raw : ReflectedColumn, raw.name = column ∧
      t.toColumn dialect includeIndexes raw ∈ (t.toTable dialect includeIndexes name columns).columns := by
  obtain ⟨d, hd, rfl⟩ := List.mem_map.mp h
  obtain ⟨raw, hraw, rfl⟩ := List.mem_map.mp hd
  exact ⟨raw, rfl, List.mem_map_of_mem hraw⟩

theorem imposes_key (h : c ∈ t.constraints name) (hkind : c.kind = .primaryKey) :
    (t.toTable dialect includeIndexes name columns).Imposes c := by
  obtain ⟨hne, hcolumns⟩ := primaryKey_of_mem h hkind
  have hkey : (t.toTable dialect includeIndexes name columns).primaryKey = some t.primaryKey.columns := by
    unfold toTable
    simp only [hne, Bool.false_eq_true, if_false]
  refine .key hkind ?_
  unfold Table.createLines
  rw [hkey, hcolumns]
  cases hkeys : t.primaryKey.columns with
  | nil =>
    rw [hkeys] at hne
    cases hne
  | cons k keys => simp

theorem imposes_check (h : c ∈ t.constraints name) (hkind : c.kind = .check) :
    (t.toTable dialect includeIndexes name columns).Imposes c := by
  obtain ⟨text, hdefinition⟩ := check_of_mem h hkind
  have hne : c.definition.isEmpty = false := by
    rw [hdefinition, ← Bool.not_eq_true, String.isEmpty_iff]
    intro hempty
    have hlength := congrArg String.length hempty
    simp only [String.length_append] at hlength
    cases hlength
  refine .line (List.mem_append_right _ (List.mem_map_of_mem (List.mem_filter.mpr ⟨h, ?_⟩)))
  simp [hkind, hne]

theorem imposes_unique (h : c ∈ t.constraints name) (hkind : c.kind = .unique) (hcolumns : c.columns = [column])
    (hcolumn : column ∈ (t.toTable dialect includeIndexes name columns).columnNames) :
    (t.toTable dialect includeIndexes name columns).Imposes c := by
  obtain ⟨k, hk, rfl⟩ := unique_of_mem h hkind
  obtain ⟨raw, rfl, hraw⟩ := exists_column hcolumn
  have hsole : raw.name ∈ t.uniqueColumns includeIndexes := mem_uniqueColumns.mpr (.inl ⟨k, hk, hcolumns⟩)
  exact .unique _ hkind hcolumns hraw (Column.unique_mem_sqlParts (List.contains_iff_mem.mpr hsole))

theorem imposes_foreignKey (h : c ∈ t.constraints name) (hkind : c.kind = .foreignKey)
    (htold : (t.toTable dialect includeIndexes name columns).Told c) :
    (t.toTable dialect includeIndexes name columns).Imposes c := by
  unfold Table.Told at htold
  rw [hkind] at htold
  obtain ⟨column, hcolumn, target, other, hcolumns, htarget, hother, hdefinition, honly⟩ := htold
  obtain ⟨raw, rfl, hraw⟩ := exists_column hcolumn
  -- The column refers to what the last foreign key of the column refers to, and that is all the same.
  have hfound : ∃ reference, t.reference? raw.name = some reference ∧ reference.table = target ∧
      reference.column = other := by
    obtain ⟨k, hk, rfl⟩ := foreignKey_of_mem h hkind
    have hreference : k.reference? = some (raw.name, ⟨target, other, k.onDelete, k.onUpdate⟩) :=
      ReflectedForeignKey.reference?_eq_some.mpr
        ⟨hcolumns, Option.some.inj hother, Option.some.inj htarget, rfl, rfl⟩
    have hmem : (raw.name, (⟨target, other, k.onDelete, k.onUpdate⟩ : ColumnReference)) ∈
        (t.foreignKeys.filterMap ReflectedForeignKey.reference?).reverse :=
      List.mem_reverse.mpr (List.mem_filterMap.mpr ⟨k, hk, hreference⟩)
    obtain ⟨reference, hlookup⟩ := exists_lookup hmem
    refine ⟨reference, hlookup, ?_⟩
    obtain ⟨k', hk', hreference'⟩ := List.mem_filterMap.mp (List.mem_reverse.mp (mem_of_lookup hlookup))
    obtain ⟨hcolumns', hother', htarget', _⟩ := ReflectedForeignKey.reference?_eq_some.mp hreference'
    exact honly (k'.toConstraint name) (mem_constraints.mpr (.inr (.inl ⟨k', hk', rfl⟩))) _ _ rfl hcolumns'
      (congrArg some htarget') (congrArg some hother')
  obtain ⟨reference, hreference, rfl, rfl⟩ := hfound
  have hparts := Column.references_mem_sqlParts (c := t.toColumn dialect includeIndexes raw) hreference
  refine .reference _ _ _ "" hkind hcolumns hraw htarget hother ?_ ?_
  · rw [hdefinition, String.append_empty]
    rfl
  · rw [String.append_empty]
    exact hparts

end ReflectedTable

/-- The remedy for a missing table that was captured imposes every constraint that the key, the columns and the checks of
the table tell in full. -/
theorem Analyzer.missingTable_imposes {a : Analyzer} {r : Reflection} {now : Moment} {s : Snapshot} {t : Table} {d : Drift}
    (h : a.analyze r now = .ok s) (ht : t ∈ s.tables) (htype : d.type = .missingTable) (hside : d.expected = .table t) :
    d.suggest.sql =
        some ("CREATE TABLE " ++ Sql.name t.name ++ " (\n" ++ joinWith ",\n" t.createLines ++ "\n);") ∧
      ∀ c ∈ t.constraints, t.Told c → t.Imposes c := by
  obtain ⟨item, _, columns, _, rfl⟩ := table_of_look (look_of_analyze h) ht
  constructor
  · unfold Drift.suggest
    rw [htype]
    unfold Drift.missingTableRemedy
    rw [hside]
    exact congrArg some (Table.createSql_eq _)
  · intro c hc htold
    cases hkind : c.kind with
    | primaryKey => exact ReflectedTable.imposes_key hc hkind
    | check => exact ReflectedTable.imposes_check hc hkind
    | foreignKey => exact ReflectedTable.imposes_foreignKey hc hkind htold
    | unique =>
      have hcolumns := htold
      unfold Table.Told at hcolumns
      rw [hkind] at hcolumns
      obtain ⟨column, hcolumn, hcolumns⟩ := hcolumns
      exact ReflectedTable.imposes_unique hc hkind hcolumns hcolumn

/-! ## An example -/

/-- A table with a key, a code that is unique by itself, a shelf that is unique in its depot, a foreign key and a
check. -/
def reflectedParcels : ReflectedTable where
  columns := some [
    ⟨"id", .text "INTEGER", false, none, false, false⟩,
    ⟨"depot", .text "INTEGER", false, none, false, false⟩,
    ⟨"code", .text "VARCHAR(8)", true, none, false, false⟩,
    ⟨"shelf", .text "INTEGER", true, some "1", false, false⟩]
  primaryKey := ⟨some "by_id", ["id"]⟩
  foreignKeys := [⟨some "in_depot", ["depot"], "depots", ["id"], none, none⟩]
  uniques := [⟨some "one_code", ["code"]⟩, ⟨some "one_place", ["depot", "shelf"]⟩]
  checks := some [⟨some "shelf_check", "shelf > 0"⟩]
  indexes := []

def parcels : Table where
  name := "parcels"
  columns := [
    ⟨"id", "integer", false, false, false, none, none⟩,
    ⟨"depot", "integer", false, false, false, none, some ⟨"depots", "id", none, none⟩⟩,
    ⟨"code", "varchar(8)", true, true, false, none, none⟩,
    ⟨"shelf", "integer", true, false, false, some "1", none⟩]
  primaryKey := some ["id"]
  constraints := [
    ⟨"by_id", .primaryKey, ["id"], "PRIMARY KEY (id)", none, none⟩,
    ⟨"in_depot", .foreignKey, ["depot"], "FOREIGN KEY (depot) REFERENCES depots (id)", some "depots", some ["id"]⟩,
    ⟨"one_code", .unique, ["code"], "UNIQUE (code)", none, none⟩,
    ⟨"one_place", .unique, ["depot", "shelf"], "UNIQUE (depot, shelf)", none, none⟩,
    ⟨"shelf_check", .check, [], "CHECK (shelf > 0)", none, none⟩]

theorem toTable_parcels : reflectedParcels.toTable "postgresql" true "parcels" (reflectedParcels.columns.getD []) =
    parcels := by
  have hcolumns : (reflectedParcels.columns.getD []).map (reflectedParcels.toColumn "postgresql" true) =
      parcels.columns := by
    decide +kernel
  have hconstraints : reflectedParcels.constraints "parcels" = parcels.constraints :=
    List.mergeSort_of_pairwise (by decide)
  unfold ReflectedTable.toTable
  rw [hcolumns, hconstraints]
  rfl

def parcelsDatabase : Reflection := ⟨"postgresql", [("parcels", reflectedParcels)], [], []⟩

theorem analyze_parcels (now : Moment) :
    Analyzer.analyze {} parcelsDatabase now = .ok ⟨now.isoText, now, [parcels], some [], some []⟩ := by
  have hkept : Analyzer.kept {} [("parcels", reflectedParcels)] = [("parcels", reflectedParcels)] :=
    List.mergeSort_singleton _
  have htables : [("parcels", reflectedParcels)].mapM (Analyzer.tableOf {} parcelsDatabase) = .ok [parcels] := by
    rw [← toTable_parcels]
    rfl
  have hindexes : Analyzer.lookIndexes {} parcelsDatabase [("parcels", reflectedParcels)] = .ok (some []) := by
    have hraw : [("parcels", reflectedParcels)].mapM (Analyzer.indexesOf parcelsDatabase) = .ok [[]] := rfl
    unfold Analyzer.lookIndexes
    rw [hraw]
    exact congrArg (Except.ok <| some ·) List.mergeSort_nil
  have hviews : Analyzer.lookViews {} parcelsDatabase = .ok (some []) := by
    have hsorted : Analyzer.byName parcelsDatabase.views = [] := List.mergeSort_nil
    have hasked : parcelsDatabase.ask .viewNames parcelsDatabase.views = .ok parcelsDatabase.views := rfl
    unfold Analyzer.lookViews
    rw [hasked, ok_bind, hsorted]
    rfl
  have hlisted : parcelsDatabase.ask .tableNames parcelsDatabase.tables = .ok [("parcels", reflectedParcels)] := rfl
  unfold Analyzer.analyze
  rw [Analyzer.look_eq, hlisted]
  simp only [ok_bind, hkept, htables, hindexes, hviews]
  rfl

/-- Only the pair of depot and shelf is not told by the columns. -/
theorem told_parcels : ∀ c ∈ parcels.constraints, c.columns ≠ ["depot", "shelf"] → parcels.Told c := by
  have honly : ∀ d ∈ parcels.constraints, d.kind = .foreignKey → d.referencesTable = some "depots" ∧
      d.referencesColumns = some ["id"] := by
    decide
  have hforeign : parcels.Told ⟨"in_depot", .foreignKey, ["depot"], "FOREIGN KEY (depot) REFERENCES depots (id)",
      some "depots", some ["id"]⟩ := by
    refine ⟨"depot", by decide, "depots", "id", rfl, rfl, rfl, rfl, fun d hd target other hkind _ htarget hother => ?_⟩
    obtain ⟨htarget', hother'⟩ := honly d hd hkind
    rw [htarget] at htarget'
    rw [hother] at hother'
    cases htarget'
    cases hother'
    exact ⟨rfl, rfl⟩
  simp only [parcels, List.forall_mem_cons]
  exact ⟨fun _ => trivial, fun _ => hforeign, fun _ => ⟨"code", by decide, rfl⟩, fun h => absurd rfl h,
    fun _ => trivial, by simp⟩

def parcelsMissing : Drift :=
  ⟨.missingTable, .high, "parcels", .table parcels, .absent, "Table 'parcels' is missing from the database"⟩

/-- The statement restores all of it but that pair. -/
theorem missingTable_imposes_parcels :
    (∃ s, Analyzer.analyze {} parcelsDatabase ⟨2024, 5, 1, 12, 0, 0, 0, some 0⟩ = .ok s ∧ parcels ∈ s.tables) ∧
    parcelsMissing.suggest.sql = some ("CREATE TABLE \"parcels\" (\n" ++
      "  \"id\" INTEGER NOT NULL,\n" ++
      "  \"depot\" INTEGER NOT NULL REFERENCES \"depots\"(\"id\"),\n" ++
      "  \"code\" VARCHAR(8) UNIQUE,\n" ++
      "  \"shelf\" INTEGER DEFAULT 1,\n" ++
      "  PRIMARY KEY (\"id\"),\n" ++
      "  CONSTRAINT \"shelf_check\" CHECK (shelf > 0)\n);") ∧
    ∀ c ∈ parcels.constraints, c.columns ≠ ["depot", "shelf"] → parcels.Imposes c := by
  have hanalyze := analyze_parcels ⟨2024, 5, 1, 12, 0, 0, 0, some 0⟩
  obtain ⟨hsql, himposes⟩ :=
    Analyzer.missingTable_imposes (d := parcelsMissing) hanalyze (List.mem_singleton_self _) rfl rfl
  refine ⟨⟨_, hanalyze, List.mem_singleton_self _⟩, hsql.trans ?_, fun c hc hpair => ?_⟩
  · decide +kernel
  · exact himposes c hc (told_parcels c hc hpair)

end SchemaConcord
