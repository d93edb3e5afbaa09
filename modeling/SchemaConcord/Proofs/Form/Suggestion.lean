import SchemaConcord.Proofs.Form.ColumnType

/-!
# Following a suggestion

For a field without a column a new column is suggested, in the spelling of the field in snake case. Once the table has
it, the field is no longer extra, and needs a value just when the column does (`Form.check_settled`). The types and
lengths suggested are fixed by the kind of the field, so some kinds are not content with the column they ask for, and a
declared length may be more than the column holds.
-/

namespace SchemaConcord

open Text Naming

/-- The column that is suggested for a field; the letter case of its type does not count. -/
structure FormField.Proposes (x : FormField) (c : Column) : Prop where
  name : c.name = snakeCase x.name
  type : lowercase c.type = lowercase x.columnType
  nullable : c.nullable = !x.required

namespace FormField

variable {x : FormField} {c : Column}

/-- The suggested column as such, with nothing else said of it. -/
def proposed (x : FormField) : Column := ⟨snakeCase x.name, x.columnType, !x.required, false, false, none, none⟩

theorem proposes_proposed (x : FormField) : x.Proposes x.proposed := ⟨rfl, rfl, rfl⟩

/-! ## A field and its column -/

theorem field_of_kindMismatch? {m : KindMismatch} (h : x.kindMismatch? c = some m) : m.field = x.name := by
  unfold kindMismatch? at h
  split at h <;> cases h
  rfl

theorem field_of_ruleMismatch {m : RuleMismatch} (h : x.presenceMismatch? c = some m ∨ x.lengthMismatch? c = some m) :
    m.field = x.name := by
  rcases h with h | h
  · unfold presenceMismatch? at h
    split at h
    · cases h
      rfl
    · split at h <;> cases h
      rfl
  · unfold lengthMismatch? at h
    split at h
    · split at h <;> cases h
      rfl
    · cases h

theorem presenceMismatch?_of_proposes (h : x.Proposes c) : x.presenceMismatch? c = none := by
  unfold presenceMismatch? Column.needsValue
  rw [h.nullable]
  cases x.required <;> rfl

theorem kindMismatch?_of_proposes (h : x.Proposes c) : (x.kindMismatch? c).isSome = true ↔
    x.kind ∈ [.radio, .select, .multiselect, .file, .hidden] ∨ (x.kind = .text ∧ x.declaredLength?.getD 0 = 0) := by
  have hsome : (x.kindMismatch? c).isSome = true ↔ x.kind.compatible c.fieldKind = false := by
    unfold kindMismatch?
    cases x.kind.compatible c.fieldKind <;> simp
  rw [hsome]
  -- A column with a length is one of text; of the others the kind alone decides.
  cases hlength : x.columnLength? with
  | none =>
    rw [(calls_columnType hlength).2 c h.type]
    by_cases htext : x.kind = .text
    · rw [if_pos htext, htext]
      exact iff_of_true rfl (.inr ⟨rfl, (columnLength?_eq_none_of_text htext).mp hlength⟩)
    · rw [columnLength?_of_ne_text htext, Option.map_eq_none_iff] at hlength
      rw [if_neg htext]
      revert hlength htext
      cases x.kind <;> simp [FieldKind.fixedLength?, FieldKind.compatible]
  | some n =>
    have hkind := Column.fieldKind_of_bounded (n := n) (lower_of_eq h.type ▸ columnType_of_length hlength)
    by_cases htext : x.kind = .text
    · have hzero : ¬ x.declaredLength?.getD 0 = 0 := by
        rw [← columnLength?_eq_none_of_text htext, hlength]
        exact Option.some_ne_none n
      rw [htext]
      rcases hkind with hkind | hkind | hkind <;> rw [hkind] <;> simp [FieldKind.compatible, kindGroups, hzero]
    · rw [columnLength?_of_ne_text htext] at hlength
      revert hlength htext
      rcases hkind with hkind | hkind | hkind <;> rw [hkind] <;> cases x.kind <;>
        simp [FieldKind.fixedLength?, FieldKind.compatible, kindGroups]

theorem lengthMismatch?_of_proposes (h : x.Proposes c) : (x.lengthMismatch? c).isSome = true ↔
    ∃ limit declared, x.kind.fixedLength? = some limit ∧ x.declaredLength? = some declared ∧
      (limit : Int) < declared := by
  have hsome : (x.lengthMismatch? c).isSome = true ↔
      ∃ limit declared, c.maxLength? = some limit ∧ x.declaredLength? = some declared ∧ (limit : Int) < declared := by
    unfold lengthMismatch? declaredLength?
    cases c.maxLength? with
    | none => simp
    | some limit =>
      cases x.rules.bind (·.maxLength) with
      | none => simp
      | some declared => by_cases hlt : (limit : Int) < declared <;> simp [hlt]
  rw [hsome, maxLength?_columnType h.type]
  by_cases htext : x.kind = .text
  · -- A text is as long as it declares, or without bound.
    refine iff_of_false ?_ (by rw [htext]; rintro ⟨_, _, hlimit, _⟩; cases hlimit)
    rintro ⟨limit, declared, hlimit, hdeclared, hlt⟩
    obtain ⟨n, hlength, hlimit⟩ := Option.bind_eq_some_iff.mp hlimit
    rw [columnLength?, if_pos htext, hdeclared] at hlength
    obtain ⟨hn, -⟩ := Option.filter_eq_some_iff.mp hlength
    cases hn
    by_cases hpos : 0 ≤ declared
    · rw [if_pos hpos] at hlimit
      cases hlimit
      omega
    · rw [if_neg hpos] at hlimit
      cases hlimit
  · have hlimit : (x.columnLength?.bind fun n => if 0 ≤ n then some n.toNat else none) = x.kind.fixedLength? := by
      rw [columnLength?_of_ne_text htext]
      cases x.kind.fixedLength? <;> rfl
    rw [hlimit]

end FormField

/-! ## A table with the column -/

def Table.withColumn (t : Table) (c : Column) : Table := { t with columns := t.columns ++ [c] }

def Snapshot.withColumn (s : Snapshot) (table : String) (c : Column) : Snapshot :=
  { s with tables := s.tables.map fun t => if t.name = table then t.withColumn c else t }

theorem Table.fieldColumn?_withColumn {t : Table} {c : Column} {field : String} (h : t.fieldColumn? field = none)
    (hc : c.name = snakeCase field) : (t.withColumn c).fieldColumn? field = some c := by
  unfold fieldColumn? at h
  rw [Option.orElse_eq_orElse, Option.orElse_eq_or, Option.or_eq_none_iff] at h
  have hadded : ∀ n, t.column? n = none → (t.withColumn c).column? n = if c.name = n then some c else none := by
    intro n hn
    unfold column? at hn
    rw [column?, withColumn, List.find?_append, hn, Option.none_or, List.find?_singleton]
    by_cases hcn : c.name = n <;> simp [hcn]
  unfold fieldColumn?
  rw [Option.orElse_eq_orElse, Option.orElse_eq_or, hadded _ h.1, hadded _ h.2, if_pos hc]
  by_cases hfield : c.name = field
  · rw [if_pos hfield]
    rfl
  · rw [if_neg hfield]
    rfl

namespace Snapshot

/-- The tables that a form may find are told by their names. -/
theorem formTable?_map {s : Snapshot} {g : Table → Table} (hg : ∀ t, (g t).name = t.name) (form : String) :
    { s with tables := s.tables.map g }.formTable? form = (s.formTable? form).map g := by
  have hspelled : ∀ spelling, { s with tables := s.tables.map g }.spelled? spelling = (s.spelled? spelling).map g := by
    intro spelling
    unfold spelled?
    simp only [← List.map_reverse, List.find?_map, Function.comp_def, hg]
    cases s.tables.reverse.find? fun t => lowercase t.name = spelling <;> rfl
  have hall : ∀ l : List String, l.findSome? ({ s with tables := s.tables.map g }.spelled?) =
      (l.findSome? s.spelled?).map g := by
    intro l
    rw [funext hspelled, List.map_findSome?]
    rfl
  unfold formTable?
  simp only [hall, Option.orElse_eq_orElse, Option.orElse_eq_or, Option.map_or]
  split
  · rfl
  · rfl

/-- A form finds its table by name, whatever becomes of the columns. -/
theorem formTable?_withColumn {s : Snapshot} {form : String} {t : Table} (h : s.formTable? form = some t)
    (c : Column) : (s.withColumn t.name c).formTable? form = some (t.withColumn c) := by
  have hname : ∀ u : Table, (if u.name = t.name then u.withColumn c else u).name = u.name := by
    intro u
    split <;> rfl
  rw [withColumn, formTable?_map hname, h, Option.map_some, if_pos rfl]

end Snapshot

/-! ## A form and its table -/

namespace Form

variable {f : Form} {s : Snapshot} {t : Table} {x : FormField} {c : Column}

theorem check_of_formTable (h : s.formTable? f.name = some t) : f.check s = f.checkTable t := by
  rw [check, h]

theorem fieldColumn?_of_extra (h : x.name ∈ (f.checkTable t).extraFields) : t.fieldColumn? x.name = none := by
  obtain ⟨y, hy, hname⟩ := List.mem_map.mp h
  have hnone := (Bool.and_eq_true_iff.mp (List.mem_filter.mp hy).2).1
  rw [hname] at hnone
  exact Option.isNone_iff_eq_none.mp hnone

theorem mem_pairs {y : FormField} {d : Column} :
    (y, d) ∈ f.pairs t ↔ y ∈ f.fields ∧ t.fieldColumn? y.name = some d := by
  simp [pairs, List.mem_filterMap]

section
variable (hx : x ∈ f.fields) (hsole : ∀ y ∈ f.fields, y.name = x.name → y = x)

include hx hsole

theorem field?_of_sole : f.field? x.name = some x := by
  unfold field?
  cases hfound : f.fields.find? fun y => decide (y.name = x.name) with
  | none =>
    have hne := List.find?_eq_none.mp hfound x hx
    exact absurd (decide_eq_true rfl) hne
  | some y =>
    have hname : y.name = x.name := by simpa using List.find?_some hfound
    rw [hsole y (List.mem_of_find?_eq_some hfound) hname]

theorem mem_migration (hextra : x.name ∈ (f.checkTable t).extraFields) :
    "ALTER TABLE \"" ++ t.name ++ "\" ADD COLUMN \"" ++ snakeCase x.name ++ "\" " ++ x.columnType ++
      (if x.required then " NOT NULL;" else " NULL;") ∈ (f.checkTable t).migration := by
  refine List.mem_append_left _ (List.mem_filterMap.mpr ⟨x.name, hextra, ?_⟩)
  have hfield : (f.checkTable t).form.field? x.name = some x := field?_of_sole hx hsole
  rw [hfield, Option.map_some]
  simp only [String.append_assoc]
  rfl

/-- Where a field has a column, what is found about the field is what is found about the two. -/
theorem exists_kindMismatch (hcolumn : t.fieldColumn? x.name = some c) :
    (∃ m ∈ (f.checkTable t).kindMismatches, m.field = x.name) ↔ (x.kindMismatch? c).isSome = true := by
  constructor
  · rintro ⟨m, hm, hfield⟩
    obtain ⟨⟨y, d⟩, hpair, hmismatch⟩ := List.mem_filterMap.mp hm
    have hmismatch : y.kindMismatch? d = some m := hmismatch
    obtain ⟨hy, hd⟩ := mem_pairs.mp hpair
    obtain rfl := hsole y hy ((FormField.field_of_kindMismatch? hmismatch).symm.trans hfield)
    cases hd.symm.trans hcolumn
    exact Option.isSome_iff_exists.mpr ⟨m, hmismatch⟩
  · intro h
    obtain ⟨m, hm⟩ := Option.isSome_iff_exists.mp h
    exact ⟨m, List.mem_filterMap.mpr ⟨(x, c), mem_pairs.mpr ⟨hx, hcolumn⟩, hm⟩, FormField.field_of_kindMismatch? hm⟩

theorem exists_ruleMismatch (hcolumn : t.fieldColumn? x.name = some c) :
    (∃ m ∈ (f.checkTable t).ruleMismatches, m.field = x.name) ↔
      ∃ m, x.presenceMismatch? c = some m ∨ x.lengthMismatch? c = some m := by
  constructor
  · rintro ⟨m, hm, hfield⟩
    obtain ⟨⟨y, d⟩, hpair, hmismatch⟩ := List.mem_flatMap.mp hm
    obtain ⟨hy, hd⟩ := mem_pairs.mp hpair
    rw [List.mem_append, Option.mem_toList, Option.mem_toList] at hmismatch
    obtain rfl := hsole y hy ((FormField.field_of_ruleMismatch hmismatch).symm.trans hfield)
    cases hd.symm.trans hcolumn
    exact ⟨m, hmismatch⟩
  · rintro ⟨m, hm⟩
    refine ⟨m, List.mem_flatMap.mpr ⟨(x, c), mem_pairs.mpr ⟨hx, hcolumn⟩, ?_⟩, FormField.field_of_ruleMismatch hm⟩
    rwa [List.mem_append, Option.mem_toList, Option.mem_toList]

end

def usersTable : Table := ⟨"users", [], none, []⟩

def users : Snapshot := ⟨"1", ⟨2024, 5, 1, 12, 0, 0, 0, some 0⟩, [usersTable], none, none⟩

def usersForm (fields : List FormField) : Form := ⟨"users", "", fields, "submit"⟩

def optionalField (name : String) (kind : FieldKind) (maxLength : Option Int) : FormField :=
  ⟨name, kind, false, some { FieldRules.free with maxLength }⟩

theorem formTable?_users (fields : List FormField) : users.formTable? (usersForm fields).name = some usersTable := by
  show users.formTable? "users" = some usersTable
  decide +kernel

def lastLogin : FormField := optionalField "lastLogin" .datetime none

def nickname : FormField := optionalField "nickname" .text none

def contact : FormField := optionalField "contact" .email (some 300)

def visits : FormField := optionalField "visits" .number none

/-- A second field of the name. -/
def visited : FormField := optionalField "visits" .checkbox none

end Form

end SchemaConcord
