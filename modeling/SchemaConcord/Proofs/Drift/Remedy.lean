import SchemaConcord.Drift.Suggest
import SchemaConcord.Proofs.Drift.Origin
import SchemaConcord.Proofs.Schema.Subject
import SchemaConcord.Proofs.Text.Edit

/-!
# What a migration is about

The migration suggested for a drift names the part of the schema in which the schemas differ, where names have no quotes
and a table whose column or constraint differs has no dot (`Snapshot.migration_about`). With other names it may name
something else: a quote is written as it is, and the object of a drift is taken apart at its first dot.
-/

namespace SchemaConcord

open Text

namespace Sql

/-- Names that stay whole when they are written between quotes and, for a part of a table, joined by a dot. -/
def Subject.Plain : Subject → Prop
  | .table n | .view n => '"' ∉ n.toList
  | .column t n | .constraint t n => '.' ∉ t.toList ∧ '"' ∉ t.toList ∧ '"' ∉ n.toList
  | .index t n => '"' ∉ t.toList ∧ '"' ∉ n.toList

/-- One statement or more, a line each, every one about the same. -/
def About (sql : String) (s : Subject) : Prop :=
  ∃ statements : List String, statements ≠ [] ∧ sql = joinWith "\n" statements ∧
    ∀ st ∈ statements, subject? st = some s

theorem About.one {sql : String} {s : Subject} (h : subject? sql = some s) : About sql s := by
  refine ⟨[sql], by simp, ?_, ?_⟩
  · simp [joinWith]
  · simpa using h

theorem About.two {first second : String} {s : Subject} (h : subject? first = some s) (h' : subject? second = some s) :
    About (first ++ "\n" ++ second) s := by
  refine ⟨[first, second], by simp, ?_, ?_⟩
  · simp [joinWith, String.intercalate_cons_cons]
  · simp [h, h']

/-! ## The statements -/

variable {t n rest : String}

theorem subject?_createSql {t : Table} (h : '"' ∉ t.name.toList) : subject? t.createSql = some (.table t.name) := by
  unfold Table.createSql
  dsimp only
  generalize joinWith ",\n" _ = lines
  have hread := subject?_createTable (" (\n" ++ lines ++ "\n);") h (by simp [Closes])
  rw [← hread]
  simp only [String.append_assoc]

theorem subject?_createIndexSql {i : Index} (ht : '"' ∉ i.table.toList) (hn : '"' ∉ i.name.toList) :
    subject? i.createSql = some (.index i.table i.name) := by
  have hread := subject?_createIndex (" (" ++ names i.columns ++ ");") i.unique hn ht (by simp [Closes])
  rw [← hread, Index.createSql]
  simp only [String.append_assoc]

theorem sqlDefinition_eq (c : Column) : ∃ rest, c.sqlDefinition = name c.name ++ (" " ++ rest) := by
  obtain ⟨parts, hparts⟩ : ∃ parts, c.sqlDefinition = joinWith " " (name c.name :: uppercase c.type :: parts) :=
    ⟨_, rfl⟩
  rw [hparts, joinWith, String.intercalate_cons_cons, String.append_assoc]
  exact ⟨_, rfl⟩

theorem subject?_addColumn {c : Column} (ht : '"' ∉ t.toList) (hn : '"' ∉ c.name.toList) :
    subject? ("ALTER TABLE " ++ name t ++ " ADD COLUMN " ++ c.sqlDefinition ++ ";") = some (.column t c.name) := by
  obtain ⟨rest, hrest⟩ := sqlDefinition_eq c
  have hread := partOf?_addColumn (t := t) (" " ++ rest ++ ";") hn (by simp [Closes])
  rw [← hread, ← subject?_alterTable _ ht (by simp [Closes]), hrest]
  simp only [String.append_assoc]

theorem subject?_alterColumn (ht : '"' ∉ t.toList) (hn : '"' ∉ n.toList) (hrest : Closes rest.toList) :
    subject? ("ALTER TABLE " ++ name t ++ " ALTER COLUMN " ++ name n ++ rest) = some (.column t n) := by
  have hread := partOf?_alterColumn (t := t) rest hn hrest
  rw [← hread, ← subject?_alterTable _ ht (by simp [Closes])]
  simp only [String.append_assoc]

theorem subject?_dropConstraint (ht : '"' ∉ t.toList) (hn : '"' ∉ n.toList) :
    subject? ("ALTER TABLE " ++ name t ++ " DROP CONSTRAINT " ++ name n ++ ";") = some (.constraint t n) := by
  have hread := partOf?_dropConstraint (t := t) ";" hn (by simp [Closes])
  rw [← hread, ← subject?_alterTable _ ht (by simp [Closes])]
  simp only [String.append_assoc]

theorem subject?_addSql {c : Constraint} {add : String} (ht : '"' ∉ t.toList) (hn : '"' ∉ c.name.toList)
    (h : c.addSql? t = some add) : subject? add = some (.constraint t c.name) := by
  obtain ⟨clause, _, rfl⟩ := Option.map_eq_some_iff.mp h
  have hread := partOf?_addConstraint (t := t) (" " ++ clause ++ ";") hn (by simp [Closes])
  rw [← hread, ← subject?_alterTable _ ht (by simp [Closes])]
  simp only [String.append_assoc]

end Sql

/-! ## The remedies -/

open Sql (About)

namespace Drift

theorem splitObject_append {t : String} (h : '.' ∉ t.toList) (n : String) : splitObject (t ++ "." ++ n) = (t, n) := by
  have hcut : Text.cutAt? ['.'] (t.toList ++ '.' :: n.toList) = some (t.toList, n.toList) := Text.cutAt?_first h _
  have hlist : (t ++ "." ++ n).toList = t.toList ++ '.' :: n.toList := by simp
  simp [splitObject, hlist, hcut]

/-- Statements, if there are any, about one part of a schema. -/
def MigratesOnly (r : Suggestion) (s : Sql.Subject) : Prop :=
  r.kind = .migration → ∃ sql, r.sql = some sql ∧ About sql s

variable {d : Drift} {s : Sql.Subject}

theorem migratesOnly_migrate {description sql : String} {impact : List String} (h : About sql s) :
    MigratesOnly (d.migrate description sql impact) s := fun _ => ⟨sql, rfl, h⟩

theorem migratesOnly_accept {description : String} : MigratesOnly (d.accept description) s := fun h => nomatch h

theorem migratesOnly_nullRemedy {t n : String} {nullable : Bool} (h : Sql.Subject.Plain (.column t n))
    (hd : d.object = t ++ "." ++ n) : MigratesOnly (d.nullRemedy nullable) (.column t n) := by
  unfold nullRemedy
  rw [hd, splitObject_append h.1]
  refine migratesOnly_migrate (.one ?_)
  have hrest : Sql.Closes (" " ++ (if nullable then "DROP NOT NULL" else "SET NOT NULL") ++ ";").toList := by
    simp [Sql.Closes]
  have hread := Sql.subject?_alterColumn h.2.1 h.2.2 hrest
  rw [← hread]
  simp only [String.append_assoc]

theorem migratesOnly_typeRemedy {t n : String} (h : Sql.Subject.Plain (.column t n)) (hd : d.object = t ++ "." ++ n) :
    MigratesOnly d.typeRemedy (.column t n) := by
  unfold typeRemedy
  rw [hd, splitObject_append h.1]
  refine migratesOnly_migrate (.one ?_)
  have hrest : Sql.Closes (" TYPE " ++ uppercase d.expected.display ++ ";").toList := by simp [Sql.Closes]
  have hread := Sql.subject?_alterColumn h.2.1 h.2.2 hrest
  rw [← hread]
  simp only [String.append_assoc]

theorem migratesOnly_missingColumnRemedy {t : String} {c : Column} (h : Sql.Subject.Plain (.column t c.name))
    (hd : d.object = t ++ "." ++ c.name) (he : d.expected = .column c) :
    MigratesOnly d.missingColumnRemedy (.column t c.name) := by
  unfold missingColumnRemedy
  rw [hd, splitObject_append h.1, he]
  exact migratesOnly_migrate (.one (Sql.subject?_addColumn h.2.1 h.2.2))

theorem migratesOnly_constraintRemedy {t : String} {c : Constraint} (h : Sql.Subject.Plain (.constraint t c.name))
    (hd : d.object = t ++ "." ++ c.name) : MigratesOnly (d.constraintRemedy c) (.constraint t c.name) := by
  unfold constraintRemedy
  rw [hd, splitObject_append h.1]
  dsimp only
  cases hadd : c.addSql? t with
  | none => exact migratesOnly_accept
  | some add =>
    have hread := Sql.subject?_addSql h.2.1 h.2.2 hadd
    refine migratesOnly_migrate ?_
    -- A live constraint is dropped in a statement of its own.
    cases d.actual
    case constraint live =>
      have htwo := About.two (Sql.subject?_dropConstraint h.2.1 h.2.2) hread
      have hline : ";\n" = ";" ++ "\n" := rfl
      rw [hline, ← String.append_assoc]
      exact htwo
    all_goals exact .one hread

/-- A default is a text or nothing, never the flag that tells whether a column is optional. -/
theorem migratesOnly_defaultRemedy {a b : Option String} (he : d.expected = .value (Datum.ofOption .text a))
    (ha : d.actual = .value (Datum.ofOption .text b)) : MigratesOnly d.constraintMismatchRemedy s := by
  unfold constraintMismatchRemedy
  rw [he, ha]
  cases a
  all_goals
    dsimp only [Datum.ofOption]
    split
    · intro h
      cases h
    · exact migratesOnly_accept

end Drift

/-! ## Every migration of a comparison -/

def Discrepancy.subject : Discrepancy → Sql.Subject
  | .missingTable t | .extraTable t => .table t.name
  | .missingView v | .extraView v | .view v _ => .view v.name
  | .missingColumn n c | .extraColumn n c | .columnType n c _ | .columnNull n c _ | .columnDefault n c _ =>
    .column n c.name
  | .missingConstraint n c | .extraConstraint n c | .constraint n c _ => .constraint n c.name
  | .missingIndex i | .extraIndex i | .index i _ => .index i.table i.name

open Drift in
theorem Discrepancy.migratesOnly {x : Discrepancy} {d : Drift} (h : x.finding = d.finding) (hx : x.subject.Plain) :
    MigratesOnly d.suggest x.subject := by
  obtain ⟨type, severity, object, expected, actual, message⟩ := d
  cases x
  all_goals
    simp only [Discrepancy.finding, Drift.finding, Finding.mk.injEq] at h
    obtain ⟨rfl, rfl, rfl, rfl, rfl⟩ := h
  case missingTable t => exact migratesOnly_migrate (.one (Sql.subject?_createSql hx))
  case missingColumn n c => exact migratesOnly_missingColumnRemedy hx rfl rfl
  case columnType n c e => exact migratesOnly_typeRemedy hx rfl
  case columnNull n c e => exact migratesOnly_nullRemedy hx rfl
  case missingConstraint n c => exact migratesOnly_constraintRemedy hx rfl
  case constraint n c e => exact migratesOnly_constraintRemedy hx rfl
  case missingIndex i => exact migratesOnly_migrate (.one (Sql.subject?_createIndexSql hx.1 hx.2))
  case missingView v =>
    show MigratesOnly (Drift.missingTableRemedy _) _
    unfold missingTableRemedy
    dsimp only
    split
    · exact migratesOnly_accept
    · have hread := Sql.subject?_createView (" AS " ++ v.definition ++ ";") hx (by simp [Sql.Closes])
      refine migratesOnly_migrate (.one ((congrArg Sql.subject? ?_).trans hread))
      simp only [String.append_assoc]
  case columnDefault n c e =>
    exact migratesOnly_defaultRemedy rfl rfl
  all_goals exact migratesOnly_accept

/-- A migration suggested for a drift of a comparison is about the part of the schema whose difference is the drift. -/
theorem Snapshot.migration_about {e a : Snapshot} {d : Drift} (hd : d ∈ e.compare a)
    (hkind : d.suggest.kind = .migration) :
    (∃ x, e.Differs a x ∧ x.finding = d.finding) ∧ ∀ x, e.Differs a x → x.finding = d.finding → x.subject.Plain →
      ∃ sql, d.suggest.sql = some sql ∧ About sql x.subject :=
  ⟨exists_origin hd, fun _ _ hx hplain => Discrepancy.migratesOnly hx hplain hkind⟩

/-- The drift of a column that was an integer. -/
def retyped (object : String) : Drift where
  type := .columnTypeMismatch
  severity := .high
  object := object
  expected := .text "integer"
  actual := .text "text"
  message := "Column '" ++ object ++ "' type changed from integer to text"

theorem Snapshot.migration_about_total :
    retyped "orders.total" ∈ (orders "integer" "by_total").compare (orders "text" "by_total") ∧
      (retyped "orders.total").suggest.kind = .migration ∧
      ∃ sql, (retyped "orders.total").suggest.sql = some sql ∧ About sql (.column "orders" "total") := by
  have hmem : retyped "orders.total" ∈ (orders "integer" "by_total").compare (orders "text" "by_total") := by
    decide +kernel
  have hkind : (retyped "orders.total").suggest.kind = .migration := rfl
  have hdiffers : (orders "integer" "by_total").Differs (orders "text" "by_total")
      (.columnType "orders" ⟨"total", "integer", true, false, false, none, none⟩
        ⟨"total", "text", true, false, false, none, none⟩) := by
    refine ⟨_, _, ⟨List.mem_singleton_self _, List.mem_singleton_self _, rfl, rfl⟩, ?_⟩
    decide
  exact ⟨hmem, hkind, (migration_about hmem hkind).2 _ hdiffers rfl ⟨by decide, by decide, by decide⟩⟩

-- With a dot in the name of the table, the statement is about a column of another table.
example : (retyped "shop.orders.total").suggest.sql.bind Sql.subject? = some (.column "shop" "orders.total") := by
  decide +kernel

end SchemaConcord
