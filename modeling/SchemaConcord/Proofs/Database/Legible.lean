import SchemaConcord.Proofs.Database.Tables

/-!
# Legible databases

A capture tells some things twice: what a foreign key refers to is in its definition too, a text, and a column repeats
what constraints and indexes on it alone say. What is told twice agrees when the database is legible: no name holds a
mark that divides the text, and nothing behind a column's flag or reference is missing from the lists.
-/

namespace SchemaConcord

open Text

/-! ## Texts that can be taken apart -/

/-- The first place of a mark divides a text in one way. -/
theorem divided_inj {c : Char} {a b x y : List Char} (ha : c ∉ a) (hb : c ∉ b) (h : a ++ c :: x = b ++ c :: y) :
    a = b ∧ x = y := by
  induction a generalizing b with
  | nil =>
    cases b with
    | nil => exact ⟨rfl, (List.cons.inj h).2⟩
    | cons d b =>
      rw [List.nil_append, List.cons_append] at h
      exact absurd ((List.cons.inj h).1 ▸ List.mem_cons_self ..) hb
  | cons d a ih =>
    rw [List.mem_cons, not_or] at ha
    cases b with
    | nil =>
      rw [List.nil_append, List.cons_append] at h
      exact absurd (List.cons.inj h).1.symm ha.1
    | cons e b =>
      rw [List.mem_cons, not_or] at hb
      rw [List.cons_append, List.cons_append] at h
      obtain ⟨rfl, hrest⟩ := List.cons.inj h
      obtain ⟨rfl, hxy⟩ := ih ha.2 hb.2 hrest
      exact ⟨rfl, hxy⟩

theorem toList_columnList_cons (a b : String) (l : List String) :
    (columnList (a :: b :: l)).toList = a.toList ++ ',' :: ' ' :: (columnList (b :: l)).toList := by
  simp [columnList, joinWith]

theorem columnList_singleton (a : String) : columnList [a] = a := by simp [columnList, joinWith]

theorem not_mem_columnList {c : Char} (hc : c ≠ ',' ∧ c ≠ ' ') : ∀ {l : List String}, (∀ s ∈ l, c ∉ s.toList) →
    c ∉ (columnList l).toList
  | [], _ => by simp [columnList, joinWith]
  | [a], h => by
    rw [columnList_singleton]
    exact h a (List.mem_singleton_self a)
  | a :: b :: l, h => by
    have ih := not_mem_columnList hc fun s hs => h s (List.mem_cons_of_mem a hs)
    rw [toList_columnList_cons, List.mem_append, List.mem_cons, List.mem_cons, not_or, not_or, not_or]
    exact ⟨h a (List.mem_cons_self ..), hc.1, hc.2, ih⟩

theorem columnList_ne_empty {a : String} (h : a ≠ "") : ∀ l : List String, columnList (a :: l) ≠ ""
  | [] => by
    rw [columnList_singleton]
    exact h
  | b :: l => by
    intro hempty
    have := congrArg String.toList hempty
    rw [toList_columnList_cons] at this
    simp at this

theorem columnList_inj {l m : List String} (hl : ∀ s ∈ l, s ≠ "" ∧ ',' ∉ s.toList) (hm : ∀ s ∈ m, s ≠ "" ∧ ',' ∉ s.toList)
    (h : columnList l = columnList m) : l = m := by
  -- A list of one column has no comma, and the first comma of a longer one ends its first column.
  induction l generalizing m with
  | nil =>
    cases m with
    | nil => rfl
    | cons b m => exact absurd h.symm (columnList_ne_empty (hm b (List.mem_cons_self ..)).1 m)
  | cons a l ih =>
    obtain ⟨hne, ha⟩ := hl a (List.mem_cons_self ..)
    cases m with
    | nil => exact absurd h (columnList_ne_empty hne l)
    | cons b m =>
      obtain ⟨_, hb⟩ := hm b (List.mem_cons_self ..)
      cases l with
      | nil =>
        cases m with
        | nil => rw [columnList_singleton, columnList_singleton] at h; rw [h]
        | cons b' m =>
          rw [columnList_singleton] at h
          rw [h, toList_columnList_cons] at ha
          simp at ha
      | cons a' l =>
        cases m with
        | nil =>
          rw [columnList_singleton] at h
          rw [← h, toList_columnList_cons] at hb
          simp at hb
        | cons b' m =>
          have hlists := congrArg String.toList h
          rw [toList_columnList_cons, toList_columnList_cons] at hlists
          obtain ⟨hfirst, hrest⟩ := divided_inj ha hb hlists
          have hrest := String.toList_inj.mp (List.cons.inj hrest).2
          rw [String.toList_inj.mp hfirst, ih (fun s hs => hl s (List.mem_cons_of_mem a hs))
            (fun s hs => hm s (List.mem_cons_of_mem b hs)) hrest]

/-! ## Foreign keys -/

namespace ReflectedForeignKey

/-- No name on the side of the target holds a mark of the definition, and the rule of deletion is in capitals. -/
structure Legible (k : ReflectedForeignKey) : Prop where
  target : '(' ∉ k.targetTable.toList
  columns : ∀ c ∈ k.targetColumns, c ≠ "" ∧ ',' ∉ c.toList ∧ ')' ∉ c.toList
  rule : ∀ d ∈ k.onDelete, d ≠ "" ∧ uppercase d = d

variable {k k' : ReflectedForeignKey} {name name' : String}

theorem deletion?_eq (h : k.Legible) : k.deletion? = k.onDelete := by
  unfold deletion?
  cases hd : k.onDelete with
  | none => rfl
  | some d =>
    have hne : d.isEmpty = false := by
      rw [← Bool.not_eq_true, String.isEmpty_iff]
      exact (h.rule d hd).1
    rw [Option.filter_some, hne]
    rfl

def ruleText (k : ReflectedForeignKey) : String := (k.deletion?.map fun d => " ON DELETE " ++ uppercase d).getD ""

theorem ruleText_inj (h : k.Legible) (h' : k'.Legible) (heq : k.ruleText = k'.ruleText) : k.onDelete = k'.onDelete := by
  have hempty : ∀ d : String, " ON DELETE " ++ uppercase d ≠ "" := by
    intro d hd
    have hlength := congrArg String.length hd
    simp only [String.length_append] at hlength
    cases (Nat.add_eq_zero_iff.mp hlength).1
  unfold ruleText at heq
  rw [deletion?_eq h, deletion?_eq h'] at heq
  cases hd : k.onDelete with
  | none =>
    cases hd' : k'.onDelete with
    | none => rfl
    | some d' =>
      rw [hd, hd'] at heq
      exact absurd heq.symm (hempty d')
  | some d =>
    cases hd' : k'.onDelete with
    | none =>
      rw [hd, hd'] at heq
      exact absurd heq (hempty d)
    | some d' =>
      rw [hd, hd'] at heq
      have hcapitals : uppercase d = uppercase d' := by
        have hlists := congrArg String.toList heq
        simp only [Option.map_some, Option.getD_some, String.toList_append, List.append_cancel_left_eq] at hlists
        exact String.toList_inj.mp hlists
      rw [(h.rule d hd).2, (h'.rule d' hd').2] at hcapitals
      rw [hcapitals]

/-- A definition tells all that a foreign key refers to. -/
theorem definition_inj (h : k.Legible) (h' : k'.Legible) (hcolumns : k.columns = k'.columns)
    (heq : (k.toConstraint name).definition = (k'.toConstraint name').definition) :
    k.targetTable = k'.targetTable ∧ k.targetColumns = k'.targetColumns ∧ k.onDelete = k'.onDelete := by
  have htext : ∀ (k : ReflectedForeignKey) (name : String), (k.toConstraint name).definition.toList =
      ("FOREIGN KEY (" ++ columnList k.columns ++ ") REFERENCES ").toList ++ ((k.targetTable.toList ++ [' ']) ++
        '(' :: ((columnList k.targetColumns).toList ++ ')' :: k.ruleText.toList)) := by
    intro k name
    simp [toConstraint, ruleText, List.append_assoc]
  have hbracket : ∀ k : ReflectedForeignKey, k.Legible → '(' ∉ k.targetTable.toList ++ [' '] := by
    intro k h
    rw [List.mem_append, not_or]
    exact ⟨h.target, by decide⟩
  have hclose : ∀ k : ReflectedForeignKey, k.Legible → ')' ∉ (columnList k.targetColumns).toList := fun k h =>
    not_mem_columnList (by decide) fun c hc => (h.columns c hc).2.2
  have hnames : ∀ k : ReflectedForeignKey, k.Legible → ∀ c ∈ k.targetColumns, c ≠ "" ∧ ',' ∉ c.toList := fun k h c hc =>
    ⟨(h.columns c hc).1, (h.columns c hc).2.1⟩
  have hlists := congrArg String.toList heq
  rw [htext, htext, hcolumns, List.append_cancel_left_eq] at hlists
  obtain ⟨htarget, hrest⟩ := divided_inj (hbracket k h) (hbracket k' h') hlists
  obtain ⟨hcolumns', hrule⟩ := divided_inj (hclose k h) (hclose k' h') hrest
  rw [List.append_cancel_right_eq] at htarget
  exact ⟨String.toList_inj.mp htarget, columnList_inj (hnames k h) (hnames k' h') (String.toList_inj.mp hcolumns'),
    ruleText_inj h h' (String.toList_inj.mp hrule)⟩

end ReflectedForeignKey

/-! ## Tables -/

namespace ReflectedTable

/-- Foreign keys are legible and no two of one column each share it, and a unique index on one column that stands behind
a constraint has that constraint in the list. -/
structure Legible (t : ReflectedTable) : Prop where
  foreignKeys : ∀ k ∈ t.foreignKeys, k.Legible
  references : ((t.foreignKeys.filterMap ReflectedForeignKey.reference?).map (·.1)).Nodup
  indexes : ∀ i ∈ t.indexes, i.unique = true → i.duplicatesConstraint = true → ∀ column, i.named = [column] →
    ∃ k ∈ t.uniques, k.columns = [column]

variable {t u : ReflectedTable} {name : String} {c d : Constraint}

theorem references_of_mem (h : c ∈ t.constraints name) (hkind : c.kind ≠ .foreignKey) :
    c.referencesTable = none ∧ c.referencesColumns = none := by
  rcases mem_constraints.mp h with h | ⟨k, _, rfl⟩ | ⟨k, _, rfl⟩ | ⟨f, _, rfl⟩
  · exact (ReflectedKey.toPrimaryKey?_some h).2.2.2
  · exact absurd rfl hkind
  · exact ⟨rfl, rfl⟩
  · exact ⟨rfl, rfl⟩

/-- What comparing looks at in a constraint tells all of it. -/
theorem constraint_eq (ht : t.Legible) (hu : u.Legible) (hc : c ∈ t.constraints name) (hd : d ∈ u.constraints name)
    (hname : c.name = d.name) (hkind : c.kind = d.kind) (hcolumns : c.columns = d.columns)
    (hdefinition : c.definition = d.definition) : c = d := by
  have href : c.referencesTable = d.referencesTable ∧ c.referencesColumns = d.referencesColumns := by
    by_cases hforeign : c.kind = .foreignKey
    · obtain ⟨k, hk, rfl⟩ := foreignKey_of_mem hc hforeign
      obtain ⟨k', hk', rfl⟩ := foreignKey_of_mem hd (hkind ▸ hforeign)
      obtain ⟨htable, htarget, _⟩ := ReflectedForeignKey.definition_inj (ht.foreignKeys k hk) (hu.foreignKeys k' hk')
        hcolumns hdefinition
      exact ⟨congrArg some htable, congrArg some htarget⟩
    · obtain ⟨htable, hcolumns⟩ := references_of_mem hc hforeign
      obtain ⟨htable', hcolumns'⟩ := references_of_mem hd (hkind ▸ hforeign)
      rw [htable, htable', hcolumns, hcolumns']
      exact ⟨rfl, rfl⟩
  cases c
  cases d
  simp only at hname hkind hcolumns hdefinition href
  obtain ⟨htable, hcolumns'⟩ := href
  rw [hname, hkind, hcolumns, hdefinition, htable, hcolumns']

section
variable (hsub : t.constraints name ⊆ u.constraints name)

include hsub

/-- A column's reference follows from the constraints, but for what happens on a change of the target. -/
theorem reference?_of_subset (ht : t.Legible) (hu : u.Legible) {column : String} {r : ColumnReference}
    (h : t.reference? column = some r) : ∃ onUpdate, u.reference? column = some { r with onUpdate } := by
  obtain ⟨k, hk, hreference⟩ := List.mem_filterMap.mp (List.mem_reverse.mp (mem_of_lookup h))
  obtain ⟨hcolumns, htarget, htable, hdelete, _⟩ := ReflectedForeignKey.reference?_eq_some.mp hreference
  have hmem := hsub (mem_constraints.mpr (.inr (.inl ⟨k, hk, rfl⟩)))
  obtain ⟨k', hk', heq⟩ := foreignKey_of_mem hmem rfl
  have hcolumns' : k'.columns = k.columns := congrArg Constraint.columns heq
  obtain ⟨htable', htarget', hdelete'⟩ := ReflectedForeignKey.definition_inj (hu.foreignKeys k' hk')
    (ht.foreignKeys k hk) hcolumns' (congrArg Constraint.definition heq)
  have hreference' : k'.reference? = some (column, { r with onUpdate := k'.onUpdate }) := by
    rw [ReflectedForeignKey.reference?_eq_some, hcolumns', htarget', htable', hdelete']
    exact ⟨hcolumns, htarget, htable, hdelete, rfl⟩
  refine ⟨k'.onUpdate, lookup_of_mem ?_ (List.mem_reverse.mpr (List.mem_filterMap.mpr ⟨k', hk', hreference'⟩))⟩
  rw [List.map_reverse]
  exact List.nodup_reverse.mpr hu.references

theorem uniqueColumns_of_subset (ht : t.Legible)
    (hindex : ∀ i ∈ t.indexes, i.unique = true → i.duplicatesConstraint = false →
      ∃ j ∈ u.indexes, j.unique = true ∧ j.named = i.named) {column : String} (h : column ∈ t.uniqueColumns true) :
    column ∈ u.uniqueColumns true := by
  have hconstraint : ∀ k ∈ t.uniques, k.columns = [column] → column ∈ u.uniqueColumns true := by
    intro k hk hcolumns
    obtain ⟨k', hk', heq⟩ := unique_of_mem (hsub (mem_constraints.mpr (.inr (.inr (.inl ⟨k, hk, rfl⟩))))) rfl
    have hcolumns' : k'.columns = k.columns := congrArg Constraint.columns heq
    exact mem_uniqueColumns.mpr (.inl ⟨k', hk', hcolumns'.trans hcolumns⟩)
  rcases mem_uniqueColumns.mp h with ⟨k, hk, hcolumns⟩ | ⟨-, i, hi, hunique, hnamed⟩
  · exact hconstraint k hk hcolumns
  · cases hbehind : i.duplicatesConstraint with
    | true =>
      obtain ⟨k, hk, hcolumns⟩ := ht.indexes i hi hunique hbehind column hnamed
      exact hconstraint k hk hcolumns
    | false =>
      obtain ⟨j, hj, hunique', hnamed'⟩ := hindex i hi hunique hbehind
      exact mem_uniqueColumns.mpr (.inr ⟨rfl, j, hj, hunique', hnamed'.trans hnamed⟩)

end

end ReflectedTable

/-- Every table that is looked at is legible, and no name of one holds the mark that divides it from the name of an
index. -/
structure Analyzer.Legible (a : Analyzer) (r : Reflection) : Prop where
  names : ∀ item ∈ a.kept r.tables, '.' ∉ item.1.toList
  tables : ∀ item ∈ a.kept r.tables, item.2.Legible

end SchemaConcord
