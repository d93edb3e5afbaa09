import SchemaConcord.Proofs.Drift.Discrepancy

/-!
# What a comparison covers

Comparing two schemas looks at some fields of their parts only. `Scope` is a choice of fields, `Snapshot.SameIn` says
that two schemas are the same in them, and `Snapshot.Agrees` says so part by part, as comparing without a drift shows
it for `Scope.compared` (`agrees_tables`, `agrees_indexes`, `agrees_views`).
-/

namespace SchemaConcord

/-! ## Schemas that are the same in some of their fields -/

/-- What is looked at in the parts of a schema; names are always a part of it. -/
structure Scope where
  column : Column → Column
  constraint : Constraint → Constraint
  index : Index → Index
  view : View → View
  column_name : ∀ {c d}, column c = column d → c.name = d.name
  constraint_name : ∀ {c d}, constraint c = constraint d → c.name = d.name
  index_key : ∀ {i j}, index i = index j → i.key = j.key
  view_name : ∀ {v w}, view v = view w → v.name = w.name

namespace Scope

def whole : Scope where
  column := id
  constraint := id
  index := id
  view := id
  column_name h := congrArg Column.name h
  constraint_name h := congrArg Constraint.name h
  index_key h := congrArg Index.key h
  view_name h := congrArg View.name h

/-- The fields that are compared; an index goes by its table and its name in one. -/
def compared : Scope where
  column c := { c with unique := false, autoIncrement := false, references := none }
  constraint c := { c with referencesTable := none, referencesColumns := none }
  index i := { i with table := "", name := i.key }
  view v := { v with columns := [] }
  column_name h := by injection h
  constraint_name h := by injection h
  index_key h := by injection h
  view_name h := by injection h

/-- What the compared fields tell of a legible database. -/
def told : Scope where
  column c := { c with autoIncrement := false, references := c.references.map fun r => { r with onUpdate := none } }
  constraint := id
  index := id
  view v := { v with columns := [] }
  column_name h := by injection h
  constraint_name h := congrArg Constraint.name h
  index_key h := congrArg Index.key h
  view_name h := by injection h

end Scope

/-- Two lists that are both there hold the same up to order, as far as `f` shows it. -/
def SameListed {α : Type} (f : α → α) : Option (List α) → Option (List α) → Prop
  | some l, some m => (l.map f).Perm (m.map f)
  | none, none => True
  | _, _ => False

instance {α : Type} [DecidableEq α] (f : α → α) (o p : Option (List α)) : Decidable (SameListed f o p) :=
  match o, p with
  | some l, some m => inferInstanceAs (Decidable ((l.map f).Perm (m.map f)))
  | none, none => .isTrue trivial
  | some _, none | none, some _ => .isFalse id

/-- The two tables are the same up to the order of lists, as far as the scope goes. -/
structure Table.SameIn (f : Scope) (t u : Table) : Prop where
  columns : (t.columns.map f.column).Perm (u.columns.map f.column)
  primaryKey : t.primaryKey = u.primaryKey
  constraints : (t.constraints.map f.constraint).Perm (u.constraints.map f.constraint)

/-- The two schemas are the same up to their version, their time and the order of lists, as far as the scope goes. -/
structure Snapshot.SameIn (f : Scope) (s s' : Snapshot) : Prop where
  names : s.tableNames.Perm s'.tableNames
  tables : ∀ t ∈ s.tables, ∀ u ∈ s'.tables, t.name = u.name → t.SameIn f u
  indexes : SameListed f.index s.indexes s'.indexes
  views : SameListed f.view s.views s'.views

instance (f : Scope) (t u : Table) : Decidable (t.SameIn f u) :=
  decidable_of_iff ((t.columns.map f.column).Perm (u.columns.map f.column) ∧ t.primaryKey = u.primaryKey ∧
    (t.constraints.map f.constraint).Perm (u.constraints.map f.constraint))
    ⟨fun ⟨h₁, h₂, h₃⟩ => ⟨h₁, h₂, h₃⟩, fun ⟨h₁, h₂, h₃⟩ => ⟨h₁, h₂, h₃⟩⟩

instance (f : Scope) (s s' : Snapshot) : Decidable (s.SameIn f s') :=
  decidable_of_iff (s.tableNames.Perm s'.tableNames ∧
    (∀ t ∈ s.tables, ∀ u ∈ s'.tables, t.name = u.name → t.SameIn f u) ∧ SameListed f.index s.indexes s'.indexes ∧
    SameListed f.view s.views s'.views)
    ⟨fun ⟨h₁, h₂, h₃, h₄⟩ => ⟨h₁, h₂, h₃, h₄⟩, fun ⟨h₁, h₂, h₃, h₄⟩ => ⟨h₁, h₂, h₃, h₄⟩⟩

/-! ## Lists that match -/

/-- Two lists with the same names, whose entries of one name are related. -/
structure Matched {α : Type} (name : α → String) (R : α → α → Prop) (l m : List α) : Prop where
  forth : ∀ a ∈ l, name a ∈ m.map name
  back : ∀ b ∈ m, name b ∈ l.map name
  pair : ∀ a ∈ l, ∀ b ∈ m, name b = name a → R a b

namespace Matched

variable {α β : Type} {name : α → String} {R R' : α → α → Prop} {l m : List α}

theorem symm (h : Matched name R l m) (hR : ∀ {a b}, R a b → R' b a) : Matched name R' m l where
  forth := h.back
  back := h.forth
  pair b hb a ha hname := hR (h.pair a ha b hb hname.symm)

theorem imp (h : Matched name R l m) (hR : ∀ a ∈ l, ∀ b ∈ m, name b = name a → R a b → R' a b) :
    Matched name R' l m where
  forth := h.forth
  back := h.back
  pair a ha b hb hname := hR a ha b hb hname (h.pair a ha b hb hname)

theorem exists_partner (h : Matched name R l m) {a : α} (ha : a ∈ l) : ∃ b ∈ m, name b = name a ∧ R a b := by
  obtain ⟨b, hb, hname⟩ := List.mem_map.mp (h.forth a ha)
  exact ⟨b, hb, hname, h.pair a ha b hb hname⟩

theorem map_perm {f : α → β} (h : Matched name (fun a b => f a = f b) l m) (hl : (l.map name).Nodup)
    (hm : (m.map name).Nodup) (hf : ∀ {a b}, f a = f b → name a = name b) : (l.map f).Perm (m.map f) := by
  have hnodup : ∀ {k : List α}, (k.map name).Nodup → (k.map f).Nodup := by
    intro k hk
    refine List.Nodup.map_on (fun a ha b hb hab => ?_) hk.of_map
    exact eq_of_name hk ha hb (hf hab)
  have hsub : ∀ {k k' : List α}, Matched name (fun a b => f a = f b) k k' → k.map f ⊆ k'.map f := by
    intro k k' hk x hx
    obtain ⟨a, ha, rfl⟩ := List.mem_map.mp hx
    obtain ⟨b, hb, _, hab⟩ := hk.exists_partner ha
    rw [hab]
    exact List.mem_map_of_mem hb
  exact (List.perm_ext_iff_of_nodup (hnodup hl) (hnodup hm)).mpr fun x => ⟨(hsub h ·), (hsub (h.symm Eq.symm) ·)⟩

theorem names_perm (h : Matched name R l m) (hl : (l.map name).Nodup) (hm : (m.map name).Nodup) :
    (l.map name).Perm (m.map name) := by
  have hnames : Matched name (fun a b => name a = name b) l m := h.imp fun _ _ _ _ hname _ => hname.symm
  exact hnames.map_perm hl hm id

end Matched

/-! ## Schemas without a drift -/

structure Table.Agrees (f : Scope) (t u : Table) : Prop where
  columns : Matched Column.name (fun c d => f.column c = f.column d) t.columns u.columns
  constraints : Matched Constraint.name (fun c d => f.constraint c = f.constraint d) t.constraints u.constraints

theorem Table.Agrees.symm {f : Scope} {t u : Table} (h : t.Agrees f u) : u.Agrees f t where
  columns := h.columns.symm Eq.symm
  constraints := h.constraints.symm Eq.symm

namespace Snapshot

variable {s s' : Snapshot}

structure Agrees (f : Scope) (s s' : Snapshot) : Prop where
  tables : Matched Table.name (Table.Agrees f) s.tables s'.tables
  indexes : ∀ l l', s.indexes = some l → s'.indexes = some l' → Matched Index.key (fun i j => f.index i = f.index j) l l'
  views : ∀ l l', s.views = some l → s'.views = some l' → Matched View.name (fun v w => f.view v = f.view w) l l'

theorem Agrees.symm {f : Scope} (h : s.Agrees f s') : s'.Agrees f s where
  tables := h.tables.symm Table.Agrees.symm
  indexes l l' hl hl' := (h.indexes l' l hl' hl).symm Eq.symm
  views l l' hl hl' := (h.views l' l hl' hl).symm Eq.symm

theorem not_differs (hs : s.NamesDistinct) (hs' : s'.NamesDistinct) (h : s.compare s' = []) (x : Discrepancy) :
    ¬ s.Differs s' x := by
  intro hx
  obtain ⟨y, hy, _⟩ := exists_of_differs hs hs' hx
  rw [h] at hy
  cases hy

section
variable (h : ∀ x, ¬ s.Differs s' x)

include h

theorem agrees_columns {t u : Table} (hp : s.Pairs s' t.name t u) :
    Matched Column.name (fun c d => Scope.compared.column c = Scope.compared.column d) t.columns u.columns where
  forth c hc := by_contra fun hn => h (.missingColumn t.name c) ⟨t, u, hp, hc, hn⟩
  back d hd := by_contra fun hn => h (.extraColumn t.name d) ⟨t, u, hp, hd, hn⟩
  pair c hc d hd hname := by
    have htype : c.type = d.type := by_contra fun hn => h (.columnType t.name c d) ⟨t, u, hp, hc, hd, hname, hn⟩
    have hnull : c.nullable = d.nullable := by_contra fun hn =>
      h (.columnNull t.name c d) ⟨t, u, hp, hc, hd, hname, hn⟩
    have hdefault : c.default = d.default := by_contra fun hn =>
      h (.columnDefault t.name c d) ⟨t, u, hp, hc, hd, hname, hn⟩
    simp only [Scope.compared, hname, htype, hnull, hdefault]

theorem agrees_constraints {t u : Table} (hp : s.Pairs s' t.name t u) :
    Matched Constraint.name (fun c d => Scope.compared.constraint c = Scope.compared.constraint d) t.constraints
      u.constraints where
  forth c hc := by_contra fun hn => h (.missingConstraint t.name c) ⟨t, u, hp, hc, hn⟩
  back d hd := by_contra fun hn => h (.extraConstraint t.name d) ⟨t, u, hp, hd, hn⟩
  pair c hc d hd hname := by
    have hsame : ¬ (c.kind ≠ d.kind ∨ c.columns ≠ d.columns ∨ c.definition ≠ d.definition) := fun hn =>
      h (.constraint t.name c d) ⟨t, u, hp, hc, hd, hname, hn⟩
    simp only [not_or, not_not] at hsame
    obtain ⟨hkind, hcolumns, hdefinition⟩ := hsame
    simp only [Scope.compared, hname, hkind, hcolumns, hdefinition]

theorem agrees_tables : Matched Table.name (Table.Agrees .compared) s.tables s'.tables where
  forth t ht := by_contra fun hn => h (.missingTable t) ⟨ht, hn⟩
  back u hu := by_contra fun hn => h (.extraTable u) ⟨hu, hn⟩
  pair _ ht _ hu hname := ⟨agrees_columns h ⟨ht, hu, rfl, hname⟩, agrees_constraints h ⟨ht, hu, rfl, hname⟩⟩

/-- An index of a table that both schemas have is compared, and all tables are of that kind. -/
theorem agrees_indexes {l l' : List Index} (hl : s.indexes = some l) (hl' : s'.indexes = some l')
    (htables : ∀ i ∈ l, i.table ∈ s.tableNames) (htables' : ∀ j ∈ l', j.table ∈ s'.tableNames) :
    Matched Index.key (fun i j => Scope.compared.index i = Scope.compared.index j) l l' := by
  have hshares : ∀ i ∈ l, s.Shares s' i.table := by
    intro i hi
    obtain ⟨t, ht, hname⟩ := List.mem_map.mp (htables i hi)
    exact ⟨htables i hi, hname ▸ (agrees_tables h).forth t ht⟩
  have hshares' : ∀ j ∈ l', s.Shares s' j.table := by
    intro j hj
    obtain ⟨u, hu, hname⟩ := List.mem_map.mp (htables' j hj)
    exact ⟨hname ▸ (agrees_tables h).back u hu, htables' j hj⟩
  constructor
  case forth =>
    intro i hi
    by_contra hn
    exact h (.missingIndex i) ⟨l, l', hl, hl', hi, hshares i hi, fun j hj _ hkey =>
      hn (List.mem_map.mpr ⟨j, hj, hkey⟩)⟩
  case back =>
    intro j hj
    by_contra hn
    exact h (.extraIndex j) ⟨l, l', hl, hl', hj, hshares' j hj, fun i hi _ hkey =>
      hn (List.mem_map.mpr ⟨i, hi, hkey⟩)⟩
  case pair =>
    intro i hi j hj hkey
    have hsame : ¬ (i.columns ≠ j.columns ∨ i.unique ≠ j.unique) := fun hn =>
      h (.index i j) ⟨l, l', hl, hl', hi, hshares i hi, hj, hshares' j hj, hkey, hn⟩
    simp only [not_or, not_not] at hsame
    simp only [Scope.compared, hkey, hsame.1, hsame.2]

theorem agrees_views {l l' : List View} (hl : s.views = some l) (hl' : s'.views = some l') :
    Matched View.name (fun v w => Scope.compared.view v = Scope.compared.view w) l l' where
  forth v hv := by_contra fun hn => h (.missingView v) ⟨l, l', hl, hl', hv, hn⟩
  back w hw := by_contra fun hn => h (.extraView w) ⟨l, l', hl, hl', hw, hn⟩
  pair v hv w hw hname := by
    have hdefinition : v.definition = w.definition := by_contra fun hn =>
      h (.view v w) ⟨l, l', hl, hl', hv, hw, hname, hn⟩
    simp only [Scope.compared, hname, hdefinition]

end

end Snapshot

end SchemaConcord
