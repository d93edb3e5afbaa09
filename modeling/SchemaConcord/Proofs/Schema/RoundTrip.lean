import SchemaConcord.Files.Document
import SchemaConcord.Proofs.Json.RoundTrip
import SchemaConcord.Proofs.Moment.RoundTrip
import SchemaConcord.Schema.Document

/-!
# Schemas read back

Every part of a schema is read back from its record, and the record of a schema from its indented text
(`readJson_indented`).
-/

namespace SchemaConcord

open Datum Reader

/-! ## Readers of lists and options -/

namespace Reader

/-- A reader reads back what a writer writes, which is never the null value. -/
structure Inverts {α : Type} (r : Reader α) (write : α → Datum) : Prop where
  read : ∀ a, r (write a) = .valid a
  notNull : ∀ a, write a ≠ .null

variable {α : Type} {r : Reader α} {write : α → Datum}

theorem itemsFrom_map {l : List α} (h : ∀ a ∈ l, r (write a) = .valid a) (i : Nat) :
    itemsFrom r i (l.map write) = .valid l := by
  induction l generalizing i with
  | nil => rfl
  | cons a l ih =>
    rw [List.map_cons, itemsFrom, h a (List.mem_cons_self ..), ih fun b hb => h b (List.mem_cons_of_mem a hb)]
    rfl

theorem Inverts.list (h : Inverts r write) : Inverts (list r) fun l => .list (l.map write) :=
  ⟨fun _ => itemsFrom_map (fun a _ => h.read a) 0, fun _ => Datum.noConfusion⟩

theorem Inverts.optional (h : Inverts r write) (o : Option α) : r.optional (ofOption write o) = .valid o := by
  cases o with
  | none => rfl
  | some a =>
    unfold Reader.optional
    rw [ofOption]
    split
    · next hn => exact absurd hn (h.notNull a)
    · rw [h.read a]
      rfl

theorem inverts_text : Inverts text .text := ⟨fun _ => rfl, fun _ => Datum.noConfusion⟩

theorem inverts_flag : Inverts flag .flag := ⟨fun _ => rfl, fun _ => Datum.noConfusion⟩

theorem inverts_texts : Inverts (Reader.list text) texts := inverts_text.list

end Reader

/-! ## Fields -/

section
variable {α : Type} {k name : String} {v : Datum} {fields : List (String × Datum)} {r : Reader α}

@[simp]
theorem needField_head : needField ((name, v) :: fields) name r = (r v).under (.field name) := by
  simp [needField]

@[simp]
theorem needField_tail (h : name ≠ k) : needField ((k, v) :: fields) name r = needField fields name r := by
  simp [needField, List.lookup_cons, beq_false_of_ne h]

@[simp]
theorem defaultField_head {default : α} :
    defaultField ((name, v) :: fields) name r default = (r v).under (.field name) := by
  simp [defaultField]

@[simp]
theorem defaultField_tail {default : α} (h : name ≠ k) :
    defaultField ((k, v) :: fields) name r default = defaultField fields name r default := by
  simp [defaultField, List.lookup_cons, beq_false_of_ne h]

@[simp]
theorem optionalField_head : optionalField ((name, v) :: fields) name r = (r.optional v).under (.field name) :=
  defaultField_head

@[simp]
theorem optionalField_tail (h : name ≠ k) : optionalField ((k, v) :: fields) name r = optionalField fields name r :=
  defaultField_tail h

end

namespace Checked

variable {α β : Type}

@[simp]
theorem under_valid (step : Step) (a : α) : (valid a).under step = valid a := rfl

@[simp]
theorem map_valid (f : α → β) (a : α) : f <$> valid a = valid (f a) := rfl

@[simp]
theorem seq_valid (f : α → β) (a : α) : valid f <*> valid a = valid (f a) := rfl

end Checked

/-! ## The parts of a schema -/

theorem ColumnReference.inverts : Inverts ColumnReference.read ColumnReference.toDatum := by
  refine ⟨fun c => ?_, fun c => Datum.noConfusion⟩
  simp [ColumnReference.read, ColumnReference.toDatum, model, inverts_text.read, inverts_text.optional]

theorem Column.inverts : Inverts Column.read Column.toDatum := by
  refine ⟨fun c => ?_, fun c => Datum.noConfusion⟩
  simp [Column.read, Column.toDatum, model, inverts_flag.read, inverts_text.read, inverts_text.optional,
    ColumnReference.inverts.optional]

theorem Constraint.inverts : Inverts Constraint.read Constraint.toDatum := by
  refine ⟨fun c => ?_, fun c => Datum.noConfusion⟩
  have hkind : choice .enumValue (wordTable ConstraintKind.word ConstraintKind.all) (.text c.kind.word) =
      .valid c.kind := by
    cases c.kind <;> rfl
  simp [Constraint.read, Constraint.toDatum, model, hkind, inverts_text.read, inverts_text.optional,
    inverts_texts.read, inverts_texts.optional]

theorem Table.inverts : Inverts Table.read Table.toDatum := by
  refine ⟨fun t => ?_, fun t => Datum.noConfusion⟩
  simp [Table.read, Table.toDatum, model, inverts_text.read, Column.inverts.list.read, inverts_texts.optional,
    Constraint.inverts.list.read]

theorem Index.inverts : Inverts Index.read Index.toDatum := by
  refine ⟨fun i => ?_, fun i => Datum.noConfusion⟩
  simp [Index.read, Index.toDatum, model, inverts_flag.read, inverts_text.read, inverts_texts.read]

theorem ViewColumn.inverts : Inverts ViewColumn.read ViewColumn.toDatum := by
  refine ⟨fun c => ?_, fun c => Datum.noConfusion⟩
  simp [ViewColumn.read, ViewColumn.toDatum, model, inverts_text.read]

theorem View.inverts : Inverts View.read View.toDatum := by
  refine ⟨fun v => ?_, fun v => Datum.noConfusion⟩
  simp [View.read, View.toDatum, model, inverts_text.read, ViewColumn.inverts.list.read]

theorem Snapshot.read_toDatum {s : Snapshot} (h : s.capturedAt.WellFormed) (now : Moment) :
    Snapshot.read now s.toDatum = .valid s := by
  have hmoment : Reader.moment (.text s.capturedAt.jsonText) = .valid s.capturedAt := by
    unfold Reader.moment
    simp only [Moment.read?_jsonText h]
  simp [Snapshot.read, Snapshot.toDatum, model, hmoment, inverts_text.read, Table.inverts.list.read,
    View.inverts.list.optional, Index.inverts.list.optional]

/-- The time of reading decides at most the time of capture. -/
theorem Snapshot.read_now {now : Moment} {v : Datum} {s : Snapshot} (h : Snapshot.read now v = .valid s)
    (now' : Moment) : ∃ m, Snapshot.read now' v = .valid { s with capturedAt := m } := by
  cases v with
  | record f =>
    simp only [Snapshot.read, model] at h ⊢
    have htime : defaultField f "captured_at" moment now' = defaultField f "captured_at" moment now ∨
        ∃ m, defaultField f "captured_at" moment now' = .valid m := by
      unfold defaultField
      cases f.lookup "captured_at" with
      | none => exact .inr ⟨now', rfl⟩
      | some w => exact .inl rfl
    revert h htime
    cases needField f "version" text <;> cases defaultField f "captured_at" moment now <;>
      cases defaultField f "tables" (list Table.read) [] <;> cases optionalField f "views" (list View.read) <;>
      cases optionalField f "indexes" (list Index.read) <;> intro h htime <;> cases h
    rcases htime with h | ⟨m, h⟩
    · rw [h]
      exact ⟨_, rfl⟩
    · rw [h]
      exact ⟨m, rfl⟩
  | _ => cases h

theorem Snapshot.readJson_now {now : Moment} {model text : String} {s : Snapshot}
    (h : readJson model (Snapshot.read now) text = .ok s) (now' : Moment) :
    ∃ m, readJson model (Snapshot.read now') text = .ok { s with capturedAt := m } := by
  unfold readJson at h ⊢
  cases hparse : Json.parse? documentDepth text.toList with
  | none => rw [hparse] at h; cases h
  | some v =>
    rw [hparse] at h
    simp only [readModel] at h ⊢
    cases hread : Snapshot.read now v with
    | invalid issues => rw [hread] at h; cases h
    | valid x =>
      rw [hread] at h
      cases h
      obtain ⟨m, hm⟩ := Snapshot.read_now hread now'
      rw [hm]
      exact ⟨m, rfl⟩

/-! ## Schemas as texts -/

namespace Datum

theorem storable_texts {n : Nat} (l : List String) : (texts l).Storable (n + 1) := by
  refine .list fun v hv => ?_
  obtain ⟨s, _, rfl⟩ := List.mem_map.mp hv
  exact .text s

theorem storable_listOf {α : Type} {n : Nat} {f : α → Datum} (h : ∀ a, (f a).Storable n) (l : List α) :
    (list (l.map f)).Storable (n + 1) := by
  refine .list fun v hv => ?_
  obtain ⟨a, _, rfl⟩ := List.mem_map.mp hv
  exact h a

theorem storable_ofOption {α : Type} {n : Nat} {f : α → Datum} (h : ∀ a, (f a).Storable n) (o : Option α) :
    (ofOption f o).Storable n := by
  cases o with
  | none => exact .null
  | some a => exact h a

theorem storable_record {n : Nat} {fields : List (String × Datum)} (hn : (fields.map Prod.fst).Nodup)
    (h : ∀ v ∈ fields.map Prod.snd, v.Storable n) : (record fields).Storable (n + 1) :=
  .record hn fun _ hf => h _ (List.mem_map_of_mem hf)

end Datum

theorem ColumnReference.storable (c : ColumnReference) : c.toDatum.Storable 1 := by
  refine storable_record (by simp) ?_
  simp only [List.map_cons, List.map_nil, List.forall_mem_cons]
  exact ⟨.text _, .text _, storable_ofOption .text _, storable_ofOption .text _, by simp⟩

theorem Column.storable (c : Column) : c.toDatum.Storable 2 := by
  refine storable_record (by simp) ?_
  simp only [List.map_cons, List.map_nil, List.forall_mem_cons]
  exact ⟨.text _, .text _, .flag _, .flag _, .flag _, storable_ofOption .text _,
    storable_ofOption ColumnReference.storable _, by simp⟩

theorem Constraint.storable (c : Constraint) : c.toDatum.Storable 2 := by
  refine storable_record (by simp) ?_
  simp only [List.map_cons, List.map_nil, List.forall_mem_cons]
  exact ⟨.text _, .text _, storable_texts _, .text _, storable_ofOption .text _, storable_ofOption storable_texts _,
    by simp⟩

theorem Table.storable (t : Table) : t.toDatum.Storable 4 := by
  refine storable_record (by simp) ?_
  simp only [List.map_cons, List.map_nil, List.forall_mem_cons]
  exact ⟨.text _, storable_listOf Column.storable _, storable_ofOption storable_texts _,
    storable_listOf Constraint.storable _, by simp⟩

theorem Index.storable (i : Index) : i.toDatum.Storable 4 := by
  refine storable_record (by simp) ?_
  simp only [List.map_cons, List.map_nil, List.forall_mem_cons]
  exact ⟨.text _, .text _, storable_texts _, .flag _, by simp⟩

theorem View.storable (v : View) : v.toDatum.Storable 4 := by
  have hcolumn : ∀ c : ViewColumn, c.toDatum.Storable 2 := by
    intro c
    refine storable_record (by simp) ?_
    simp only [List.map_cons, List.map_nil, List.forall_mem_cons]
    exact ⟨.text _, .text _, by simp⟩
  refine storable_record (by simp) ?_
  simp only [List.map_cons, List.map_nil, List.forall_mem_cons]
  exact ⟨.text _, .text _, storable_listOf hcolumn _, by simp⟩

theorem Snapshot.storable (s : Snapshot) : s.toDatum.Storable 6 := by
  refine storable_record (by simp) ?_
  simp only [List.map_cons, List.map_nil, List.forall_mem_cons]
  exact ⟨.text _, .text _, storable_listOf Table.storable _, storable_ofOption (storable_listOf View.storable) _,
    storable_ofOption (storable_listOf Index.storable) _, by simp⟩

/-- The text that a schema is kept as is read back as the schema. -/
theorem Snapshot.readJson_indented {s : Snapshot} (h : s.capturedAt.WellFormed) (now : Moment) :
    readJson "DatabaseSchema" (Snapshot.read now) (Json.indented s.toDatum) = .ok s := by
  have hparse := Json.parse?_indented (s.storable.mono (show 6 ≤ documentDepth by decide))
  unfold readJson
  simp only [hparse, readModel, Snapshot.read_toDatum h]
  rfl

end SchemaConcord
