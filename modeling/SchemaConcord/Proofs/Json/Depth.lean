import SchemaConcord.Proofs.Json.RoundTrip

/-!
# How deep JSON texts may nest

A reader of JSON texts takes lists and records up to some depth only. Of the values that a text keeps, it reads back
those that stay within its depth (`parse?_indented`) and refuses the text of every other (`parse?_indented_deep`).
-/

namespace SchemaConcord

namespace Json

open Text

section
variable {gap : Nat → List Char} {mid : List Char} {m n : Nat}

/-- The layout of the value is not read, whatever follows. -/
def Refused (gap : Nat → List Char) (mid : List Char) (n : Nat) (v : Datum) : Prop :=
  ∀ depth t, value? n (spacedText gap mid depth v ++ t) = none

theorem value?_zero_list {cs : List Char} (h : empty? ('[' :: cs) = none) : value? 0 ('[' :: cs) = none := by
  rw [value?, h]
  rfl

theorem value?_zero_record {cs : List Char} (h : empty? ('{' :: cs) = none) : value? 0 ('{' :: cs) = none := by
  rw [value?, h]
  rfl

variable (hgap : ∀ n, ∀ c ∈ gap n, isJsonBlank c = true) (hmid : ∀ c ∈ mid, isJsonBlank c = true)

include hgap hmid

/-- The items before one that is refused are read, and there the reading of the list ends. -/
theorem items?_refused (depth : Nat) (t : List Char) : ∀ {l : List Datum},
    (∀ v ∈ l, v.Storable m ∧ (v.Storable n ∨ Refused gap mid n v)) → (∃ v ∈ l, ¬ v.Storable n) → ∀ fuel,
    items? (value? n) fuel (spacedItems gap mid depth l ++ t) = none
  | _, _, _, 0 => rfl
  | [], _, hdeep, _ + 1 => by simp at hdeep
  | [v], h, hdeep, fuel + 1 => by
    obtain ⟨hs, hread⟩ := h v (List.mem_cons_self ..)
    obtain ⟨_, hv, hdeep⟩ := hdeep
    cases List.mem_singleton.mp hv
    have hrefused := hread.resolve_left hdeep
    unfold items?
    simp only [spacedItems, List.append_assoc, skipBlanks_spacedText gap mid (hgap depth) hs, hrefused depth,
      Option.bind_eq_bind, Option.bind_none]
  | v :: w :: l, h, hdeep, fuel + 1 => by
    obtain ⟨hs, hread⟩ := h v (List.mem_cons_self ..)
    unfold items?
    simp only [spacedItems, List.append_assoc, List.cons_append, skipBlanks_spacedText gap mid (hgap depth) hs,
      Option.bind_eq_bind]
    by_cases hv : v.Storable n
    · have hrest : ∃ u ∈ w :: l, ¬ u.Storable n := by
        obtain ⟨u, hu, hdeep⟩ := hdeep
        rcases List.mem_cons.mp hu with rfl | hu
        · exact absurd hv hdeep
        · exact ⟨u, hu, hdeep⟩
      have ih := items?_refused depth t (fun u hu => h u (List.mem_cons_of_mem v hu)) hrest fuel
      have hback := value?_spacedText hgap hmid hv depth
      simp only [hback _ (stops_cons (show Follows ',' by decide) _),
        skipBlanks_cons (show isJsonBlank ',' = false by decide), ih, Option.bind_some, Option.bind_none]
    · have hrefused := hread.resolve_left hv
      simp only [hrefused depth, Option.bind_none]

theorem fields?_refused (depth : Nat) (t : List Char) : ∀ {l : List (String × Datum)},
    (∀ f ∈ l, f.2.Storable m ∧ (f.2.Storable n ∨ Refused gap mid n f.2)) → (∃ f ∈ l, ¬ f.2.Storable n) → ∀ fuel,
    fields? (value? n) fuel (spacedFields gap mid depth l ++ t) = none
  | _, _, _, 0 => rfl
  | [], _, hdeep, _ + 1 => by simp at hdeep
  | [(k, v)], h, hdeep, fuel + 1 => by
    obtain ⟨hs, hread⟩ := h (k, v) (List.mem_cons_self ..)
    obtain ⟨_, hf, hdeep⟩ := hdeep
    cases List.mem_singleton.mp hf
    have hrefused := hread.resolve_left hdeep
    have hquote := fun r => skipBlanks_append (hgap depth) (blank_head? (c := '"') (by decide) r)
    unfold fields?
    simp only [spacedFields, quote, List.append_assoc, List.cons_append, List.nil_append, hquote, stringRest?_quote,
      skipBlanks_cons (show isJsonBlank ':' = false by decide), skipBlanks_spacedText gap mid hmid hs,
      hrefused depth, Option.bind_eq_bind, Option.bind_some, Option.bind_none]
  | (k, v) :: g :: l, h, hdeep, fuel + 1 => by
    obtain ⟨hs, hread⟩ := h (k, v) (List.mem_cons_self ..)
    have hquote := fun r => skipBlanks_append (hgap depth) (blank_head? (c := '"') (by decide) r)
    unfold fields?
    simp only [spacedFields, quote, List.append_assoc, List.cons_append, List.nil_append, hquote, stringRest?_quote,
      skipBlanks_cons (show isJsonBlank ':' = false by decide), skipBlanks_spacedText gap mid hmid hs,
      Option.bind_eq_bind, Option.bind_some]
    by_cases hv : v.Storable n
    · have hrest : ∃ f ∈ g :: l, ¬ f.2.Storable n := by
        obtain ⟨f, hf, hdeep⟩ := hdeep
        rcases List.mem_cons.mp hf with rfl | hf
        · exact absurd hv hdeep
        · exact ⟨f, hf, hdeep⟩
      have ih := fields?_refused depth t (fun u hu => h u (List.mem_cons_of_mem (k, v) hu)) hrest fuel
      have hback := value?_spacedText hgap hmid hv depth
      simp only [hback _ (stops_cons (show Follows ',' by decide) _),
        skipBlanks_cons (show isJsonBlank ',' = false by decide), ih, Option.bind_some, Option.bind_none]
    · have hrefused := hread.resolve_left hv
      simp only [hrefused depth, Option.bind_none]

theorem refused_of_deep {v : Datum} (h : v.Storable m) (hdeep : ¬ v.Storable n) : Refused gap mid n v := by
  -- A text is refused at its first part that is too deep: what stands before that is read.
  induction h generalizing n with
  | null => exact absurd .null hdeep
  | flag b => exact absurd (.flag b) hdeep
  | int i => exact absurd (.int i) hdeep
  | text s => exact absurd (.text s) hdeep
  | emptyList => exact absurd .emptyList hdeep
  | emptyRecord => exact absurd .emptyRecord hdeep
  | @list m items h ih =>
    intro depth t
    cases items with
    | nil => exact absurd .emptyList hdeep
    | cons v l =>
      simp only [spacedText, List.cons_append, List.append_assoc, List.nil_append]
      have hempty : empty? ('[' :: (spacedItems gap mid (depth + 1) (v :: l) ++ (gap depth ++ ']' :: t))) = none :=
        empty?_spacedItems hgap (h v (List.mem_cons_self ..)) (depth + 1) l _
      cases n with
      | zero => exact value?_zero_list hempty
      | succ n =>
        have hitem : ∃ u ∈ v :: l, ¬ u.Storable n := by
          by_contra hall
          simp only [not_exists, not_and, not_not] at hall
          exact hdeep (.list hall)
        have hread : ∀ u ∈ v :: l, u.Storable m ∧ (u.Storable n ∨ Refused gap mid n u) := fun u hu =>
          ⟨h u hu, or_iff_not_imp_left.mpr (ih u hu)⟩
        unfold value?
        simp only [hempty, items?_refused hgap hmid (depth + 1) _ hread hitem, Option.map_none]
  | @record m fields hn h ih =>
    intro depth t
    cases fields with
    | nil => exact absurd .emptyRecord hdeep
    | cons f l =>
      simp only [spacedText, List.cons_append, List.append_assoc, List.nil_append]
      have hempty : empty? ('{' :: (spacedFields gap mid (depth + 1) (f :: l) ++ (gap depth ++ '}' :: t))) = none :=
        empty?_spacedFields hgap (depth + 1) f l _
      cases n with
      | zero => exact value?_zero_record hempty
      | succ n =>
        have hfield : ∃ g ∈ f :: l, ¬ g.2.Storable n := by
          by_contra hall
          simp only [not_exists, not_and, not_not] at hall
          exact hdeep (.record hn hall)
        have hread : ∀ g ∈ f :: l, g.2.Storable m ∧ (g.2.Storable n ∨ Refused gap mid n g.2) := fun g hg =>
          ⟨h g hg, or_iff_not_imp_left.mpr (ih g hg)⟩
        unfold value?
        simp only [hempty, fields?_refused hgap hmid (depth + 1) _ hread hfield, Option.map_none]

end

theorem parse?_indented_deep {m n : Nat} {v : Datum} (h : v.Storable m) (hdeep : ¬ v.Storable n) :
    parse? n (indented v).toList = none := by
  have hblank : ∀ c ∈ [' '], isJsonBlank c = true := by simp [isJsonBlank]
  have hrefused := refused_of_deep isJsonBlank_of_mem_newLine hblank h hdeep 0 []
  have hskip := skipBlanks_spacedText newLine [' '] (l := []) (by simp) h 0 []
  rw [List.nil_append] at hskip
  rw [indented, String.toList_ofList, indentedText_eq, ← List.append_nil (spacedText ..)]
  unfold parse?
  rw [hskip, hrefused]

end Json

/-! ## Parts of values -/

namespace Datum

theorem storable_item {n : Nat} {v : Datum} {items : List Datum} (h : (list items).Storable (n + 1)) (hv : v ∈ items) :
    v.Storable n := by
  cases h with
  | emptyList => cases hv
  | list h => exact h v hv

theorem storable_field {n : Nat} {f : String × Datum} {fields : List (String × Datum)}
    (h : (record fields).Storable (n + 1)) (hf : f ∈ fields) : f.2.Storable n := by
  cases h with
  | emptyRecord => cases hf
  | record _ h => exact h f hf

/-- A value within `k` lists of one item. -/
def nested (v : Datum) : Nat → Datum
  | 0 => v
  | k + 1 => list [nested v k]

theorem storable_nested {n k : Nat} {v : Datum} (h : v.Storable n) : (nested v k).Storable (n + k) := by
  induction k with
  | zero => exact h
  | succ k ih => exact .list fun u hu => List.mem_singleton.mp hu ▸ ih

theorem le_of_storable_nested {n k : Nat} {v : Datum} (h : (nested v k).Storable n) : k ≤ n := by
  induction k generalizing n with
  | zero => exact Nat.zero_le n
  | succ k ih =>
    cases n with
    | zero => cases h
    | succ n => exact Nat.succ_le_succ (ih (storable_item h (List.mem_singleton_self _)))

end Datum

end SchemaConcord
