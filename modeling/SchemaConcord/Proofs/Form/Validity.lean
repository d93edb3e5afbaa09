import Mathlib.Data.List.Nodup
import SchemaConcord.Proofs.Form.Suggestion

/-!
# Valid forms

A form is valid against its table when every field stands for a column unless it is never stored, suits the column in
its kind, its presence and its length, and every column that needs a value has a field (`Form.isValid_check`).
-/

namespace SchemaConcord

open Text Naming

/-! ## Fields and columns -/

namespace Table

variable {t : Table} {field : String} {c : Column}

/-- A field stands for the column of its name, and else for the one of its name in snake case. -/
def Resolves (t : Table) (field : String) (c : Column) : Prop :=
  c ∈ t.columns ∧ (c.name = field ∨ field ∉ t.columnNames ∧ c.name = snakeCase field)

theorem column?_eq_some (ht : t.columnNames.Nodup) {name : String} :
    t.column? name = some c ↔ c ∈ t.columns ∧ c.name = name := by
  constructor
  · intro h
    exact ⟨List.mem_of_find?_eq_some h, by simpa using List.find?_some h⟩
  · rintro ⟨hc, rfl⟩
    cases hfound : t.column? c.name with
    | none => exact absurd (decide_eq_true rfl) (List.find?_eq_none.mp hfound c hc)
    | some d =>
      have hname : d.name = c.name := by simpa using List.find?_some hfound
      rw [List.inj_on_of_nodup_map ht (List.mem_of_find?_eq_some hfound) hc hname]

theorem column?_eq_none {name : String} : t.column? name = none ↔ name ∉ t.columnNames := by
  unfold column? columnNames
  rw [List.find?_eq_none, List.mem_map]
  simp

theorem fieldColumn?_eq_some (ht : t.columnNames.Nodup) : t.fieldColumn? field = some c ↔ t.Resolves field c := by
  unfold fieldColumn? Resolves
  rw [Option.orElse_eq_orElse, Option.orElse_eq_or, Option.or_eq_some_iff, column?_eq_some ht, column?_eq_none,
    column?_eq_some ht]
  constructor
  · rintro (⟨hc, hname⟩ | ⟨hfield, hc, hname⟩)
    · exact ⟨hc, .inl hname⟩
    · exact ⟨hc, .inr ⟨hfield, hname⟩⟩
  · rintro ⟨hc, hname | ⟨hfield, hname⟩⟩
    · exact .inl ⟨hc, hname⟩
    · exact .inr ⟨hfield, hc, hname⟩

end Table

/-- Nothing but a field gives a column its value. -/
structure Column.NeedsValue (c : Column) : Prop where
  nullable : c.nullable = false
  default : c.default = none
  autoIncrement : c.autoIncrement = false

theorem Column.needsValue_iff {c : Column} : c.needsValue = true ↔ c.NeedsValue := by
  unfold needsValue
  rw [Bool.and_eq_true_iff, Bool.and_eq_true_iff, Bool.not_eq_true', Bool.not_eq_true', Option.isNone_iff_eq_none]
  exact ⟨fun ⟨⟨h, h'⟩, h''⟩ => ⟨h, h', h''⟩, fun ⟨h, h', h''⟩ => ⟨⟨h, h'⟩, h''⟩⟩

namespace FormField

variable {x : FormField} {c : Column}

/-- A field and a column agree: in their kind, or their kinds stand for each other; in whether there has to be a value;
and in how long it may be. -/
structure Suits (x : FormField) (c : Column) : Prop where
  kind : x.kind = c.fieldKind ∨ ∃ group ∈ kindGroups, x.kind ∈ group ∧ c.fieldKind ∈ group
  required : ¬ (x.required = true ∧ c.nullable = true)
  optional : ¬ (x.required = false ∧ c.NeedsValue)
  length : ∀ limit declared, FirstLength (lower c.type.toList) limit → x.declaredLength? = some declared →
    declared ≤ limit

theorem kindMismatch?_eq_none : x.kindMismatch? c = none ↔
    x.kind = c.fieldKind ∨ ∃ group ∈ kindGroups, x.kind ∈ group ∧ c.fieldKind ∈ group := by
  have hcompatible : x.kind.compatible c.fieldKind = true ↔
      x.kind = c.fieldKind ∨ ∃ group ∈ kindGroups, x.kind ∈ group ∧ c.fieldKind ∈ group := by
    unfold FieldKind.compatible
    simp only [Bool.or_eq_true, decide_eq_true_eq, List.any_eq_true, Bool.and_eq_true, List.contains_iff_mem]
  rw [← hcompatible]
  unfold kindMismatch?
  cases x.kind.compatible c.fieldKind <;> simp

theorem presenceMismatch?_eq_none : x.presenceMismatch? c = none ↔
    ¬ (x.required = true ∧ c.nullable = true) ∧ ¬ (x.required = false ∧ c.NeedsValue) := by
  rw [← Column.needsValue_iff]
  unfold presenceMismatch?
  cases x.required <;> simp

theorem lengthMismatch?_eq_none : x.lengthMismatch? c = none ↔
    ∀ limit declared, FirstLength (lower c.type.toList) limit → x.declaredLength? = some declared →
      declared ≤ limit := by
  simp only [← Column.maxLength?_eq_some]
  unfold lengthMismatch? declaredLength?
  cases c.maxLength? with
  | none => simp
  | some limit =>
    cases x.rules.bind (·.maxLength) with
    | none => simp
    | some declared => simp

theorem suits_iff : x.Suits c ↔
    x.kindMismatch? c = none ∧ x.presenceMismatch? c = none ∧ x.lengthMismatch? c = none := by
  rw [kindMismatch?_eq_none, presenceMismatch?_eq_none, lengthMismatch?_eq_none]
  constructor
  · intro h
    exact ⟨h.kind, ⟨h.required, h.optional⟩, h.length⟩
  · rintro ⟨hkind, ⟨hrequired, hoptional⟩, hlength⟩
    exact ⟨hkind, hrequired, hoptional, hlength⟩

end FormField

/-! ## A form and its table -/

namespace Form

variable {f : Form} {s : Snapshot} {t : Table}

/-- A form has what its table asks of it, and nothing else that would be stored. -/
structure Suits (f : Form) (t : Table) : Prop where
  placed : ∀ x ∈ f.fields, (∃ c, t.Resolves x.name c) ∨ isUnstored x.name = true
  suited : ∀ x ∈ f.fields, ∀ c, t.Resolves x.name c → x.Suits c
  covered : ∀ c ∈ t.columns, c.NeedsValue → ∃ x ∈ f.fields, t.Resolves x.name c

theorem extraFields_eq_nil (ht : t.columnNames.Nodup) : (f.checkTable t).extraFields = [] ↔
    ∀ x ∈ f.fields, (∃ c, t.Resolves x.name c) ∨ isUnstored x.name = true := by
  unfold checkTable
  rw [List.map_eq_nil_iff, List.filter_eq_nil_iff]
  refine forall₂_congr fun x hx => ?_
  simp only [← Table.fieldColumn?_eq_some ht]
  cases t.fieldColumn? x.name <;> simp

theorem mismatches_eq_nil (ht : t.columnNames.Nodup) :
    (f.checkTable t).kindMismatches = [] ∧ (f.checkTable t).ruleMismatches = [] ↔
      ∀ x ∈ f.fields, ∀ c, t.Resolves x.name c → x.Suits c := by
  have hpairs : (∀ x ∈ f.fields, ∀ c, t.Resolves x.name c → x.Suits c) ↔ ∀ p ∈ f.pairs t, p.1.Suits p.2 := by
    constructor
    · intro h p hp
      obtain ⟨hx, hc⟩ := mem_pairs.mp hp
      exact h p.1 hx p.2 ((Table.fieldColumn?_eq_some ht).mp hc)
    · intro h x hx c hc
      exact h (x, c) (mem_pairs.mpr ⟨hx, (Table.fieldColumn?_eq_some ht).mpr hc⟩)
  rw [hpairs]
  unfold checkTable
  simp only [List.filterMap_eq_nil_iff, List.flatMap_eq_nil_iff, List.append_eq_nil_iff, Option.toList_eq_nil_iff,
    FormField.suits_iff]
  exact forall₂_and.symm

theorem mem_covered (ht : t.columnNames.Nodup) {c : Column} (hc : c ∈ t.columns) :
    c.name ∈ (f.pairs t).map (fun p => p.2.name) ↔ ∃ x ∈ f.fields, t.Resolves x.name c := by
  rw [List.mem_map]
  constructor
  · rintro ⟨⟨x, d⟩, hp, hname⟩
    obtain ⟨hx, hd⟩ := mem_pairs.mp hp
    have hd := (Table.fieldColumn?_eq_some ht).mp hd
    obtain rfl : d = c := List.inj_on_of_nodup_map ht hd.1 hc hname
    exact ⟨x, hx, hd⟩
  · rintro ⟨x, hx, hresolves⟩
    exact ⟨(x, c), mem_pairs.mpr ⟨hx, (Table.fieldColumn?_eq_some ht).mpr hresolves⟩, rfl⟩

/-- The columns that are missing are those that need a value and have no field. -/
theorem mem_missingColumns (ht : t.columnNames.Nodup) {name : String} : name ∈ (f.checkTable t).missingColumns ↔
    ∃ c ∈ t.columns, c.name = name ∧ c.NeedsValue ∧ ¬ ∃ x ∈ f.fields, t.Resolves x.name c := by
  have hmissing : name ∈ (f.checkTable t).missingColumns ↔ ∃ c, (c ∈ t.columns ∧
      (c.needsValue && !((f.pairs t).map fun p => p.2.name).contains c.name) = true) ∧ c.name = name := by
    unfold checkTable
    simp only [List.mem_map, List.mem_filter]
  rw [hmissing]
  refine exists_congr fun c => ?_
  rw [Bool.and_eq_true_iff, Column.needsValue_iff, Bool.not_eq_true', ← Bool.not_eq_true, List.contains_iff_mem]
  constructor
  · rintro ⟨⟨hc, hneeds, huncovered⟩, hname⟩
    exact ⟨hc, hname, hneeds, fun h => huncovered ((mem_covered ht hc).mpr h)⟩
  · rintro ⟨hc, hname, hneeds, huncovered⟩
    exact ⟨⟨hc, hneeds, fun h => huncovered ((mem_covered ht hc).mp h)⟩, hname⟩

theorem missingColumns_eq_nil (ht : t.columnNames.Nodup) : (f.checkTable t).missingColumns = [] ↔
    ∀ c ∈ t.columns, c.NeedsValue → ∃ x ∈ f.fields, t.Resolves x.name c := by
  rw [List.eq_nil_iff_forall_not_mem]
  simp only [mem_missingColumns ht]
  constructor
  · intro h c hc hneeds
    by_contra huncovered
    exact h c.name ⟨c, hc, rfl, hneeds, huncovered⟩
  · rintro h name ⟨c, hc, -, hneeds, huncovered⟩
    exact huncovered (h c hc hneeds)

/-- A form is valid against the table that it finds just when it suits the table. The columns that it lacks are listed
once each, in the order of the table, and no field stands for one of them. -/
theorem isValid_check (ht : s.formTable? f.name = some t) (hnames : t.columnNames.Nodup) :
    ((f.check s).isValid = true ↔ f.Suits t) ∧ (f.check s).missingColumns.Nodup ∧
      (f.check s).missingColumns.Sublist t.columnNames ∧
      ∀ x ∈ f.fields, ∀ c, t.Resolves x.name c → c.name ∉ (f.check s).missingColumns := by
  rw [check_of_formTable ht]
  have hsublist : (f.checkTable t).missingColumns.Sublist t.columnNames := List.filter_sublist.map _
  refine ⟨?_, hnames.sublist hsublist, hsublist, ?_⟩
  · unfold FormCheck.isValid
    simp only [Bool.and_eq_true, List.isEmpty_iff]
    constructor
    · rintro ⟨⟨⟨hmissing, hkinds⟩, hextra⟩, hrules⟩
      exact ⟨(extraFields_eq_nil hnames).mp hextra, (mismatches_eq_nil hnames).mp ⟨hkinds, hrules⟩,
        (missingColumns_eq_nil hnames).mp hmissing⟩
    · intro h
      obtain ⟨hkinds, hrules⟩ := (mismatches_eq_nil hnames).mpr h.suited
      exact ⟨⟨⟨(missingColumns_eq_nil hnames).mpr h.covered, hkinds⟩, (extraFields_eq_nil hnames).mpr h.placed⟩, hrules⟩
  · intro x hx c hc hmissing
    obtain ⟨d, hd, hname, -, huncovered⟩ := (mem_missingColumns hnames).mp hmissing
    obtain rfl := List.inj_on_of_nodup_map hnames hd hc.1 hname
    exact huncovered ⟨x, hx, hc⟩

/-! ## A form for a table of accounts -/

def accountsTable : Table where
  name := "accounts"
  columns := [⟨"id", "integer", false, false, true, none, none⟩, ⟨"email", "varchar(255)", false, true, false, none, none⟩,
    ⟨"first_name", "varchar(80)", true, false, false, none, none⟩]
  primaryKey := some ["id"]
  constraints := []

def accounts : Snapshot := ⟨"1", ⟨2024, 5, 1, 12, 0, 0, 0, some 0⟩, [accountsTable], none, none⟩

def registration (emailLength : Int) : Form where
  name := "editAccount"
  source := ""
  fields := [⟨"email", .email, true, some { FieldRules.free with maxLength := some emailLength }⟩,
    ⟨"firstName", .text, false, none⟩, ⟨"csrf_token", .hidden, false, none⟩]
  submitAction := "submit"

theorem isValid_check_registration :
    accounts.formTable? (registration 255).name = some accountsTable ∧ accountsTable.columnNames.Nodup ∧
      ((registration 255).check accounts).isValid = true ∧ (registration 255).Suits accountsTable ∧
      ((registration 300).check accounts).isValid = false ∧ ¬ (registration 300).Suits accountsTable := by
  have htable : ∀ n, accounts.formTable? (registration n).name = some accountsTable := by
    intro n
    show accounts.formTable? "editAccount" = some accountsTable
    decide +kernel
  have hnames : accountsTable.columnNames.Nodup := by decide
  have hvalid : ((registration 255).check accounts).isValid = true := by decide +kernel
  have hinvalid : ((registration 300).check accounts).isValid = false := by decide +kernel
  refine ⟨htable 255, hnames, hvalid, (isValid_check (htable 255) hnames).1.mp hvalid, hinvalid, ?_⟩
  rw [← (isValid_check (htable 300) hnames).1, hinvalid]
  exact Bool.false_ne_true

end Form

end SchemaConcord
