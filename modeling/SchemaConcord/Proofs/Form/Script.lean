import Mathlib.Data.List.Basic
import SchemaConcord.Proofs.Form.Suggestion
import SchemaConcord.Proofs.Naming.Spelling
import SchemaConcord.Proofs.Schema.Subject

/-!
# The suggestions of several forms

Read as one script, the suggestions for a list of forms never add a column that the table of the form has, and add a
column once for each field that asks for it (`Form.added_script`). Two fields may ask for the same column: they are
spelled alike in snake case, or stand in two forms of one table. Names are not escaped, so all of this is about names
without a quote.
-/

namespace SchemaConcord

open Text Naming

/-! ## Names without a quote -/

namespace Text

def Unquoted (c : Char) : Prop := c ≠ '"'

theorem unquoted_ofNat {n : Nat} (h : 97 ≤ n) : Unquoted (Char.ofNat n) := by
  intro hquote
  have hcode : (Char.ofNat n).toNat = 34 := congrArg Char.toNat hquote
  by_cases hvalid : n.isValidChar
  · rw [Char.ofNat, dif_pos hvalid] at hcode
    have : n = 34 := hcode
    omega
  · rw [Char.ofNat, dif_neg hvalid] at hcode
    cases hcode

theorem unquoted_lowerChar {c : Char} (h : Unquoted c) : Unquoted (lowerChar c) := by
  unfold lowerChar
  by_cases hascii : isAscii c = true
  · rw [if_pos hascii, asciiLower]
    by_cases hupper : isAsciiUpper c = true
    · rw [if_pos hupper]
      simp only [isAsciiUpper, Bool.and_eq_true, decide_eq_true_eq, Char.le_def, UInt32.le_iff_toNat_le] at hupper
      have hlow : 65 ≤ c.toNat := hupper.1
      exact unquoted_ofNat (by omega)
    · rwa [if_neg hupper]
  · rw [if_neg hascii]
    split
    · simp [Unquoted]
    · cases himage : runImage? lowerRuns c.toNat with
      | none => exact h
      | some image =>
        obtain ⟨run, hrun, -, -, -, rfl⟩ := runImage?_eq_some himage
        exact unquoted_ofNat (Nat.le_add_left_of_le (lowerRuns_images run hrun).1)

theorem unquoted_lower {cs : List Char} (h : ∀ c ∈ cs, Unquoted c) : ∀ c ∈ lower cs, Unquoted c :=
  forall_lower (by simp [Unquoted]) fun c hc _ _ => unquoted_lowerChar (h c hc)

end Text

namespace Naming

theorem unquoted_snakeCase {w : String} (h : '"' ∉ w.toList) : '"' ∉ (snakeCase w).toList := by
  have hunder : Unquoted '_' := by simp [Unquoted]
  have hname : ∀ c ∈ w.toList, Unquoted c := fun c hc hquote => h (hquote ▸ hc)
  have hmarked := forall_squeeze (q := isSeparator) (List.forall_mem_singleton.mpr hunder)
    (forall_markHumps hunder (forall_markAcronyms hunder (forall_trim (q := isBlank) hname) false) false)
  intro hquote
  rw [snakeCase, onChars, String.toList_ofList] at hquote
  exact unquoted_lower hmarked _ hquote rfl

end Naming

/-! ## Statements that add a column -/

namespace Sql

/-- The table that a statement adds a column to, and the name of the column. -/
def added? (statement : String) : Option (String × String) :=
  (nameAfter? "ALTER TABLE " statement.toList).bind fun (table, cs) =>
    (nameAfter? " ADD COLUMN " cs).map fun (column, _) => (table, column)

variable {t n : String} (rest : String)

theorem closes_blank (cs : List Char) : Closes (" ".toList ++ cs) := by
  simp [Closes]

theorem added?_alterTable (ht : '"' ∉ t.toList) :
    added? ("ALTER TABLE \"" ++ t ++ "\" " ++ rest) =
      (nameAfter? " ADD COLUMN " (" ".toList ++ rest.toList)).map fun (n, _) => (t, n) := by
  have htable := nameAfter?_append "ALTER TABLE " ht (closes_blank rest.toList)
  have hchars : ("ALTER TABLE \"" ++ t ++ "\" " ++ rest).toList =
      "ALTER TABLE ".toList ++ ((name t).toList ++ (" ".toList ++ rest.toList)) := by
    simp [name]
  rw [added?, hchars, htable]
  rfl

theorem added?_addColumn (ht : '"' ∉ t.toList) (hn : '"' ∉ n.toList) :
    added? ("ALTER TABLE \"" ++ t ++ "\" " ++ ("ADD COLUMN \"" ++ n ++ "\" " ++ rest)) = some (t, n) := by
  have hname := nameAfter?_append " ADD COLUMN " hn (closes_blank rest.toList)
  have hchars : " ".toList ++ ("ADD COLUMN \"" ++ n ++ "\" " ++ rest).toList =
      " ADD COLUMN ".toList ++ ((name n).toList ++ (" ".toList ++ rest.toList)) := by
    simp [name]
  rw [added?_alterTable _ ht, hchars, hname]
  rfl

theorem added?_alterColumn (ht : '"' ∉ t.toList) :
    added? ("ALTER TABLE \"" ++ t ++ "\" " ++ ("ALTER COLUMN \"" ++ rest)) = none := by
  have hother : ∀ cs, nameAfter? " ADD COLUMN " (" ".toList ++ ("ALTER COLUMN \"".toList ++ cs)) = none := fun _ =>
    nameAfter?_of_none rfl
  rw [added?_alterTable _ ht, String.toList_append, hother]
  rfl

end Sql

/-! ## The columns that forms ask for -/

/-- Whether a table has no place for a field. -/
def Table.lacks (t : Table) (x : FormField) : Bool := (t.fieldColumn? x.name).isNone && !isUnstored x.name

namespace Form

variable {f : Form} {s : Snapshot} {t : Table}

/-- Whether a field has no place in the table of its form, and stands for this column of this table. -/
def asks (f : Form) (s : Snapshot) (table column : String) (x : FormField) : Bool :=
  (s.formTable? f.name).any fun t => t.lacks x && decide ((t.name, snakeCase x.name) = (table, column))

/-- The columns that the suggestions for a list of forms add. -/
def added (s : Snapshot) (forms : List Form) : List (String × String) :=
  ((forms.map (·.check s)).flatMap FormCheck.migration).filterMap Sql.added?

theorem not_mem_columnNames {x : FormField} (h : t.lacks x = true) : snakeCase x.name ∉ t.columnNames := by
  intro hmem
  obtain ⟨c, hc, hname⟩ := List.mem_map.mp hmem
  have hnone := Option.isNone_iff_eq_none.mp (Bool.and_eq_true_iff.mp h).1
  rw [Table.fieldColumn?, Option.orElse_eq_orElse, Option.orElse_eq_or, Option.or_eq_none_iff] at hnone
  have hne := List.find?_eq_none.mp hnone.2 c hc
  exact hne (decide_eq_true hname)

theorem mem_of_formTable? {form : String} (h : s.formTable? form = some t) : t ∈ s.tables := by
  have hspelled : ∀ {spelling}, s.spelled? spelling = some t → t ∈ s.tables := by
    intro spelling hfound
    rw [Snapshot.spelled?, Option.orElse_eq_orElse, Option.orElse_eq_or, Option.or_eq_some_iff] at hfound
    rcases hfound with hfound | ⟨-, hfound⟩
    · exact List.mem_reverse.mp (List.mem_of_find?_eq_some hfound)
    · exact List.mem_reverse.mp (List.mem_of_find?_eq_some hfound)
  have hall : ∀ {l : List String}, l.findSome? s.spelled? = some t → t ∈ s.tables := by
    intro l hfound
    obtain ⟨spelling, -, hfound⟩ := List.exists_of_findSome?_eq_some hfound
    exact hspelled hfound
  rw [Snapshot.formTable?, Option.orElse_eq_orElse, Option.orElse_eq_or, Option.or_eq_some_iff] at h
  rcases h with h | ⟨-, h⟩
  · exact hall h
  · split at h
    · cases h
    · exact hall h

theorem exists_field? {x : FormField} (h : x ∈ f.fields) : ∃ y, f.field? x.name = some y := by
  apply Option.isSome_iff_exists.mp
  apply List.find?_isSome.mpr
  exact ⟨x, h, decide_eq_true rfl⟩

/-- The statement for a field that the table lacks; `y` is the field by which the form knows the name. -/
def addition (table field : String) (y : FormField) : String :=
  "ALTER TABLE \"" ++ table ++ "\" " ++ "ADD COLUMN \"" ++ snakeCase field ++ "\" " ++ y.columnType ++
    (if y.required then " NOT NULL;" else " NULL;")

def alteration (table column : String) (y : FormField) : String :=
  "ALTER TABLE \"" ++ table ++ "\" " ++ "ALTER COLUMN \"" ++ column ++ "\" TYPE " ++ y.columnType ++ ";"

theorem migration_checkTable (f : Form) (t : Table) : (f.checkTable t).migration =
    ((f.fields.filter t.lacks).filterMap fun x => (f.field? x.name).map (addition t.name x.name)) ++
      (f.checkTable t).kindMismatches.filterMap fun m => (f.field? m.field).map (alteration t.name m.column) := by
  have hextra : (f.checkTable t).extraFields = (f.fields.filter t.lacks).map (·.name) := rfl
  show ((f.checkTable t).extraFields.filterMap fun name => (f.field? name).map (addition t.name name)) ++ _ = _
  rw [hextra, List.filterMap_map]
  rfl

theorem added?_addition {table field : String} (ht : '"' ∉ table.toList) (hfield : '"' ∉ field.toList)
    (y : FormField) : Sql.added? (addition table field y) = some (table, snakeCase field) := by
  have hadded := Sql.added?_addColumn (y.columnType ++ (if y.required then " NOT NULL;" else " NULL;")) ht
    (unquoted_snakeCase hfield)
  unfold addition
  simpa only [String.append_assoc] using hadded

theorem added?_alteration {table : String} (ht : '"' ∉ table.toList) (column : String) (y : FormField) :
    Sql.added? (alteration table column y) = none := by
  have hadded := Sql.added?_alterColumn (column ++ "\" TYPE " ++ y.columnType ++ ";") ht
  unfold alteration
  simpa only [String.append_assoc] using hadded

/-- What the suggestions for a form add: a column for each field that the table lacks, in the order of the fields. -/
theorem added_migration (ht : '"' ∉ t.name.toList) (hfields : ∀ x ∈ f.fields, '"' ∉ x.name.toList) :
    (f.checkTable t).migration.filterMap Sql.added? =
      (f.fields.filter t.lacks).map fun x => (t.name, snakeCase x.name) := by
  have hadds : ∀ x ∈ f.fields.filter t.lacks, ((f.field? x.name).map (addition t.name x.name)).bind Sql.added? =
      some (t.name, snakeCase x.name) := by
    intro x hx
    have hx := (List.mem_filter.mp hx).1
    obtain ⟨y, hy⟩ := exists_field? hx
    rw [hy, Option.map_some, Option.bind_some]
    exact added?_addition ht (hfields x hx) y
  have halters : ∀ m ∈ (f.checkTable t).kindMismatches,
      ((f.field? m.field).map (alteration t.name m.column)).bind Sql.added? = none := by
    intro m _
    cases f.field? m.field with
    | none => rfl
    | some y =>
      rw [Option.map_some, Option.bind_some]
      exact added?_alteration ht m.column y
  rw [migration_checkTable, List.filterMap_append, List.filterMap_filterMap, List.filterMap_filterMap,
    List.filterMap_eq_nil_iff.mpr halters, List.append_nil, List.filterMap_congr hadds, List.filterMap_eq_map']

theorem count_added (ht : '"' ∉ t.name.toList) (hfields : ∀ x ∈ f.fields, '"' ∉ x.name.toList)
    (h : s.formTable? f.name = some t) (table column : String) :
    ((f.check s).migration.filterMap Sql.added?).count (table, column) = f.fields.countP (f.asks s table column) := by
  rw [check_of_formTable h, added_migration ht hfields, List.count, List.countP_map, List.countP_filter]
  apply List.countP_congr
  intro x _
  rw [asks, h, Option.any_some, Bool.and_comm]
  simp [Function.comp_apply, Bool.beq_eq_decide_eq]

/-- The suggestions for a list of forms add no column that the table of the form has, and add a column as often as there
are fields that ask for it. -/
theorem added_script {s : Snapshot} {forms : List Form} (htables : ∀ t ∈ s.tables, '"' ∉ t.name.toList)
    (hfields : ∀ f ∈ forms, ∀ x ∈ f.fields, '"' ∉ x.name.toList) :
    (∀ table column, (table, column) ∈ added s forms →
      ∃ f ∈ forms, ∃ t ∈ s.tables, s.formTable? f.name = some t ∧ t.name = table ∧ column ∉ t.columnNames) ∧
    ∀ table column, (added s forms).count (table, column) =
      (forms.flatMap fun f => f.fields.filter (f.asks s table column)).length := by
  have hcount : ∀ f ∈ forms, ∀ table column, ((f.check s).migration.filterMap Sql.added?).count (table, column) =
      f.fields.countP (f.asks s table column) := by
    intro f hf table column
    cases h : s.formTable? f.name with
    | none =>
      have hasks : ∀ x ∈ f.fields, ¬ f.asks s table column x = true := by
        intro x _
        simp [asks, h]
      rw [List.countP_eq_zero.mpr hasks, check, h]
      rfl
    | some t => exact count_added (htables t (mem_of_formTable? h)) (hfields f hf) h table column
  have hadded : added s forms = forms.flatMap fun f => (f.check s).migration.filterMap Sql.added? := by
    rw [added, List.flatMap_map, List.filterMap_flatMap]
  refine ⟨?_, ?_⟩
  · intro table column hmem
    rw [hadded] at hmem
    obtain ⟨f, hf, hmem⟩ := List.mem_flatMap.mp hmem
    have hpos := List.count_pos_iff.mpr hmem
    rw [hcount f hf, List.countP_pos_iff] at hpos
    obtain ⟨x, -, hasks⟩ := hpos
    obtain ⟨t, ht, hasks⟩ := (Option.any_eq_true _ _).mp hasks
    obtain ⟨hlacks, hnamed⟩ := Bool.and_eq_true_iff.mp hasks
    obtain ⟨rfl, rfl⟩ := Prod.mk.inj (of_decide_eq_true hnamed)
    exact ⟨f, hf, t, mem_of_formTable? ht, ht, rfl, not_mem_columnNames hlacks⟩
  · intro table column
    rw [hadded, List.count_flatMap, List.length_flatMap]
    congr 1
    apply List.map_congr_left
    intro f hf
    rw [Function.comp_apply, hcount f hf, List.countP_eq_length_filter]

/-! ## Forms for a table of orders -/

def keyed (name : String) : Table := ⟨name, [⟨"id", "INTEGER", false, false, true, none, none⟩], some ["id"], []⟩

def sales : Snapshot := ⟨"1", ⟨2024, 5, 1, 12, 0, 0, 0, some 0⟩, [keyed "orders"], none, none⟩

def noteForm (name field : String) : Form := ⟨name, "", [optionalField field .textarea none], "submit"⟩

theorem added_script_alike :
    (∀ t ∈ sales.tables, '"' ∉ t.name.toList) ∧
    (∀ f ∈ [noteForm "orders" "orderNote", noteForm "create-order" "order_note"], ∀ x ∈ f.fields,
      '"' ∉ x.name.toList) ∧
    let forms := [noteForm "orders" "orderNote", noteForm "create-order" "order_note"]
    ("orders", "order_note") ∈ added sales forms ∧ ("orders", "id") ∉ added sales forms ∧
      (added sales forms).count ("orders", "order_note") = 2 := by
  have htables : ∀ t ∈ sales.tables, '"' ∉ t.name.toList := by decide +kernel
  have hfields : ∀ f ∈ [noteForm "orders" "orderNote", noteForm "create-order" "order_note"], ∀ x ∈ f.fields,
      '"' ∉ x.name.toList := by decide +kernel
  obtain ⟨hlacking, hcount⟩ := added_script htables hfields
  have htwice := (hcount "orders" "order_note").trans (by decide +kernel : _ = 2)
  refine ⟨htables, hfields, ?_, ?_, htwice⟩
  · apply List.count_pos_iff.mp
    rw [htwice]
    decide
  · intro hmem
    obtain ⟨f, -, t, ht, -, -, hid⟩ := hlacking "orders" "id" hmem
    obtain rfl := List.mem_singleton.mp ht
    exact hid (by decide)

/-- Orders beside a table whose name has quotes. -/
def quotedSales : Snapshot := { sales with tables := [keyed "orders", keyed "orders\" ADD COLUMN \"id"] }

/-- A column is added twice for two fields of one form or of two forms. A quote in the name of a field or of a table
ends the name, and an identity that the table has is added. -/
theorem added_twice :
    (added sales [{ noteForm "orders" "orderNote" with
      fields := [optionalField "orderNote" .textarea none, optionalField "order_note" .textarea none] }]).count
        ("orders", "order_note") = 2 ∧
    (added sales [noteForm "orders" "note", noteForm "create-order" "note"]).count ("orders", "note") = 2 ∧
    ("orders", "id") ∈ added sales [noteForm "orders" "id\"integer,add\"x"] ∧
    ("orders", "id") ∈ added quotedSales [noteForm "ordersAddColumnId" "note"] ∧
    ∀ s ∈ [sales, quotedSales], ∃ t ∈ s.tables, t.name = "orders" ∧ "id" ∈ t.columnNames := by
  refine ⟨?_, ?_, ?_, ?_, ?_⟩ <;> decide +kernel

end Form

end SchemaConcord
