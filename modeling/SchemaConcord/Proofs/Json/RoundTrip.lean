import Mathlib.Data.List.Nodup
import SchemaConcord.Proofs.Json.Quoted
import SchemaConcord.Proofs.Text.Digits

/-!
# JSON texts read back

The two layouts differ in the blanks they put around items only, so both are cases of one layout whose blanks are
given (`spacedText`). A value without reals and times whose records have distinct field names (`Storable`) is read
back from any such layout (`value?_spacedText`), hence from both (`parse?_indented`, `parse?_compact`).
-/

namespace SchemaConcord

/-- Values that a JSON text keeps as they are, with lists and records nested at most `n` deep, empty ones not
counted. -/
inductive Datum.Storable : Nat → Datum → Prop
  | null {n} : Storable n .null
  | flag {n} (b : Bool) : Storable n (.flag b)
  | int {n} (i : Int) : Storable n (.int i)
  | text {n} (s : String) : Storable n (.text s)
  | emptyList {n} : Storable n (.list [])
  | emptyRecord {n} : Storable n (.record [])
  | list {n items} : (∀ v ∈ items, Storable n v) → Storable (n + 1) (.list items)
  | record {n fields} : (fields.map Prod.fst).Nodup → (∀ f ∈ fields, Storable n f.2) → Storable (n + 1) (.record fields)

theorem Datum.Storable.mono {n m : Nat} {v : Datum} (h : v.Storable n) (hm : n ≤ m) : v.Storable m := by
  induction h generalizing m with
  | null => exact .null
  | flag b => exact .flag b
  | int i => exact .int i
  | text s => exact .text s
  | emptyList => exact .emptyList
  | emptyRecord => exact .emptyRecord
  | list _ ih =>
    obtain ⟨m, rfl⟩ : ∃ k, m = k + 1 := ⟨m - 1, by omega⟩
    exact .list fun v hv => ih v hv (by omega)
  | record hn _ ih =>
    obtain ⟨m, rfl⟩ : ∃ k, m = k + 1 := ⟨m - 1, by omega⟩
    exact .record hn fun f hf => ih f hf (by omega)

namespace Json

open Text

/-! ## One layout for both -/

section
variable (gap : Nat → List Char) (mid : List Char)

mutual

/-- The layout with `gap` before every item and every closing bracket, by depth, and `mid` after every colon. -/
def spacedText (depth : Nat) : Datum → List Char
  | .list [] => ['[', ']']
  | .list items => '[' :: (spacedItems (depth + 1) items ++ gap depth ++ [']'])
  | .record [] => ['{', '}']
  | .record fields => '{' :: (spacedFields (depth + 1) fields ++ gap depth ++ ['}'])
  | v => scalarText v

def spacedItems (depth : Nat) : List Datum → List Char
  | [] => []
  | [v] => gap depth ++ spacedText depth v
  | v :: rest => gap depth ++ spacedText depth v ++ ',' :: spacedItems depth rest

def spacedFields (depth : Nat) : List (String × Datum) → List Char
  | [] => []
  | [(k, v)] => gap depth ++ quote k.toList ++ ':' :: (mid ++ spacedText depth v)
  | (k, v) :: rest =>
    gap depth ++ quote k.toList ++ ':' :: (mid ++ (spacedText depth v ++ ',' :: spacedFields depth rest))

end

end

mutual

theorem indentedText_eq (depth : Nat) : ∀ v, indentedText depth v = spacedText newLine [' '] depth v
  | .list [] | .record [] | .null | .flag _ | .int _ | .real _ | .text _ | .time _ => by
    simp only [indentedText, spacedText]
  | .list (v :: rest) => by
    simp only [indentedText, spacedText, indentedItems_eq (depth + 1) (v :: rest)]
  | .record (f :: rest) => by
    simp only [indentedText, spacedText, indentedFields_eq (depth + 1) (f :: rest)]

theorem indentedItems_eq (depth : Nat) : ∀ l, indentedItems depth l = spacedItems newLine [' '] depth l
  | [] => by simp only [indentedItems, spacedItems]
  | [v] => by simp only [indentedItems, spacedItems, indentedText_eq depth v]
  | v :: w :: rest => by
    simp only [indentedItems, spacedItems, indentedText_eq depth v, indentedItems_eq depth (w :: rest)]

theorem indentedFields_eq (depth : Nat) : ∀ l, indentedFields depth l = spacedFields newLine [' '] depth l
  | [] => by simp only [indentedFields, spacedFields]
  | [(k, v)] => by
    simp only [indentedFields, spacedFields, indentedText_eq depth v, List.cons_append, List.nil_append]
  | (k, v) :: g :: rest => by
    simp only [indentedFields, spacedFields, indentedText_eq depth v, indentedFields_eq depth (g :: rest),
      List.cons_append, List.nil_append]

end

mutual

theorem compactText_eq (depth : Nat) : ∀ v, compactText v = spacedText (fun _ => []) [] depth v
  | .null | .flag _ | .int _ | .real _ | .text _ | .time _ => by simp only [compactText, spacedText]
  | .list [] | .record [] => by
    simp only [compactText, compactItems, compactFields, spacedText, List.nil_append]
  | .list (v :: rest) => by
    simp only [compactText, spacedText, compactItems_eq (depth + 1) (v :: rest), List.append_nil]
  | .record (f :: rest) => by
    simp only [compactText, spacedText, compactFields_eq (depth + 1) (f :: rest), List.append_nil]

theorem compactItems_eq (depth : Nat) : ∀ l, compactItems l = spacedItems (fun _ => []) [] depth l
  | [] => by simp only [compactItems, spacedItems]
  | [v] => by simp only [compactItems, spacedItems, compactText_eq depth v, List.nil_append]
  | v :: w :: rest => by
    simp only [compactItems, spacedItems, compactText_eq depth v, compactItems_eq depth (w :: rest), List.nil_append]

theorem compactFields_eq (depth : Nat) : ∀ l, compactFields l = spacedFields (fun _ => []) [] depth l
  | [] => by simp only [compactFields, spacedFields]
  | [(k, v)] => by simp only [compactFields, spacedFields, compactText_eq depth v, List.nil_append]
  | (k, v) :: g :: rest => by
    simp only [compactFields, spacedFields, compactText_eq depth v, compactFields_eq depth (g :: rest),
      List.nil_append]

end

/-! ## Blanks -/

theorem skipBlanks_append {l t : List Char} (hl : ∀ c ∈ l, isJsonBlank c = true)
    (ht : ∀ c ∈ t.head?, isJsonBlank c = false) : skipBlanks (l ++ t) = t := by
  unfold skipBlanks
  rw [List.dropWhile_append_of_pos hl]
  cases t with
  | nil => rfl
  | cons c t => exact List.dropWhile_cons_of_neg (by simp [ht c rfl])

theorem skipBlanks_cons {c : Char} (h : isJsonBlank c = false) (t : List Char) : skipBlanks (c :: t) = c :: t :=
  List.dropWhile_cons_of_neg (by simp [h])

theorem blank_head? {c : Char} (h : isJsonBlank c = false) (t : List Char) :
    ∀ d ∈ (c :: t).head?, isJsonBlank d = false := by
  intro d hd
  cases hd
  exact h

theorem stops_cons {c : Char} (h : Follows c) (t : List Char) : Stops (c :: t) := by
  intro d hd
  cases hd
  exact h

theorem stops_of_blank {l t : List Char} (hl : ∀ c ∈ l, isJsonBlank c = true) (ht : Stops t) : Stops (l ++ t) := by
  cases l with
  | nil => exact ht
  | cons c l =>
    intro d hd
    have hc := hl c (List.mem_cons_self ..)
    rw [List.cons_append, List.head?_cons, Option.mem_some] at hd
    subst hd
    simp only [isJsonBlank, Bool.or_eq_true, beq_iff_eq] at hc
    rcases hc with ((rfl | rfl) | rfl) | rfl <;> decide

/-! ## Scalars -/

theorem value?_empty (n : Nat) {r : Datum × List Char} {cs : List Char} (h : empty? cs = some r) :
    value? n cs = some r := by
  cases n with
  | zero =>
    rw [value?, h]
    rfl
  | succ n =>
    unfold value?
    rw [h]

theorem value?_eq_scalar? (n : Nat) {c : Char} (h₁ : c ≠ '[') (h₂ : c ≠ '{') (t : List Char) :
    value? n (c :: t) = scalar? (c :: t) := by
  have he : empty? (c :: t) = none := by
    unfold empty?
    split
    · next h => exact absurd (List.cons.inj h).1 h₁
    · next h => exact absurd (List.cons.inj h).1 h₂
    · rfl
  cases n with
  | zero => rw [value?, he]; rfl
  | succ n =>
    unfold value?
    simp only [he]
    split
    · next h => exact absurd (List.cons.inj h).1 h₁
    · next h => exact absurd (List.cons.inj h).1 h₂
    · rfl

theorem exists_digit (n : Nat) : ∃ c cs, Nat.toDigits 10 n = c :: cs ∧ 48 ≤ c.toNat ∧ c.toNat ≤ 57 := by
  obtain ⟨c, cs, hc⟩ := List.exists_cons_of_ne_nil (Nat.toDigits_ne_nil (n := n) (b := 10))
  exact ⟨c, cs, hc, isAsciiDigit_iff.mp (isAsciiDigit_toDigits (hc ▸ List.mem_cons_self .. : c ∈ Nat.toDigits 10 n))⟩

theorem scalar?_digits (n : Nat) {t : List Char} (ht : Stops t) :
    scalar? (Nat.toDigits 10 n ++ t) = some (.int n, t) := by
  have hnum := number?_toDigits false n ht
  obtain ⟨c, cs, hc, hlow, hhigh⟩ := exists_digit n
  rw [hc] at hnum ⊢
  rw [List.cons_append] at hnum ⊢
  rw [scalar?]
  · exact hnum
  all_goals
    intros
    rename_i h
    have := congrArg Char.toNat (List.cons.inj h).1
    simp at this
    omega

theorem scalar?_minus (n : Nat) {t : List Char} (ht : Stops t) :
    scalar? ('-' :: (Nat.toDigits 10 n ++ t)) = some (.int (-n), t) := by
  have hnum := number?_toDigits true n ht
  obtain ⟨c, cs, hc, hlow, hhigh⟩ := exists_digit n
  rw [hc] at hnum ⊢
  rw [List.cons_append] at hnum ⊢
  rw [scalar?]
  · exact hnum
  · intro rest h
    have := congrArg Char.toNat (List.cons.inj h).1
    simp at this
    omega

/-! ## Records -/

theorem putField_fresh {k : String} {v : Datum} : ∀ {l : List (String × Datum)}, k ∉ l.map Prod.fst →
    Datum.putField k v l = l ++ [(k, v)]
  | [], _ => rfl
  | (j, w) :: l, h => by
    rw [List.map_cons, List.mem_cons, not_or] at h
    rw [Datum.putField, if_neg (fun e => h.1 e.symm), putField_fresh h.2]
    rfl

theorem mergeFields_of_nodup {l : List (String × Datum)} (h : (l.map Prod.fst).Nodup) : mergeFields l = l := by
  have hfold : ∀ (l acc : List (String × Datum)), ((acc ++ l).map Prod.fst).Nodup →
      l.foldl (fun acc f => Datum.putField f.1 f.2 acc) acc = acc ++ l := by
    intro l
    induction l with
    | nil => intro acc _; rw [List.foldl_nil, List.append_nil]
    | cons f l ih =>
      intro acc hn
      have hf : f.1 ∉ acc.map Prod.fst := by
        intro hf
        rw [List.map_append, List.map_cons, List.nodup_append] at hn
        exact hn.2.2 f.1 hf f.1 (List.mem_cons_self ..) rfl
      rw [List.foldl_cons, putField_fresh hf, ih _ (by rw [List.append_assoc]; exact hn), List.append_assoc]
      rfl
  exact hfold l [] h

/-! ## Values -/

section
variable (gap : Nat → List Char) (mid : List Char)

/-- A written value starts with a character that is neither a blank nor a closing bracket. -/
theorem spacedText_head {n : Nat} {v : Datum} (h : v.Storable n) (depth : Nat) :
    ∃ c cs, spacedText gap mid depth v = c :: cs ∧ isJsonBlank c = false ∧ c ≠ ']' := by
  cases h with
  | null => exact ⟨'n', ['u', 'l', 'l'], by simp only [spacedText]; rfl, by decide, by decide⟩
  | flag b =>
    cases b with
    | false => exact ⟨'f', ['a', 'l', 's', 'e'], by simp only [spacedText]; rfl, by decide, by decide⟩
    | true => exact ⟨'t', ['r', 'u', 'e'], by simp only [spacedText]; rfl, by decide, by decide⟩
  | int i =>
    simp only [spacedText, scalarText, intText]
    split
    · exact ⟨_, _, rfl, by decide, by decide⟩
    · obtain ⟨c, cs, hc, hd⟩ := exists_digit i.natAbs
      refine ⟨c, cs, hc, ?_, ?_⟩
      · simp only [isJsonBlank, Bool.or_eq_false_iff, beq_eq_false_iff_ne]
        refine ⟨⟨⟨?_, ?_⟩, ?_⟩, ?_⟩ <;> (rintro rfl; revert hd; decide)
      · rintro rfl; revert hd; decide
  | text s => exact ⟨'"', _, by simp only [spacedText, scalarText, quote]; rfl, by decide, by decide⟩
  | emptyList => exact ⟨'[', _, by simp only [spacedText]; rfl, by decide, by decide⟩
  | emptyRecord => exact ⟨'{', _, by simp only [spacedText]; rfl, by decide, by decide⟩
  | @list _ items _ => cases items <;> exact ⟨'[', _, by simp only [spacedText]; rfl, by decide, by decide⟩
  | @record _ fields _ _ => cases fields <;> exact ⟨'{', _, by simp only [spacedText]; rfl, by decide, by decide⟩

theorem length_spacedItems (depth : Nat) {n : Nat} : ∀ {l : List Datum}, (∀ v ∈ l, v.Storable n) →
    l.length ≤ (spacedItems gap mid depth l).length
  | [], _ => Nat.zero_le _
  | [v], h => by
    obtain ⟨c, cs, hv, _⟩ := spacedText_head gap mid (h v (List.mem_cons_self ..)) depth
    simp only [spacedItems, hv, List.length_append, List.length_cons, List.length_nil]
    omega
  | v :: w :: l, h => by
    have ih := length_spacedItems depth fun u hu => h u (List.mem_cons_of_mem v hu)
    simp only [spacedItems, List.length_append, List.length_cons] at ih ⊢
    omega

theorem length_spacedFields (depth : Nat) : ∀ l : List (String × Datum),
    l.length ≤ (spacedFields gap mid depth l).length
  | [] => Nat.zero_le _
  | [(k, v)] => by
    simp only [spacedFields, List.length_append, List.length_cons, List.length_nil]
    omega
  | (k, v) :: f :: l => by
    have ih := length_spacedFields depth (f :: l)
    simp only [spacedFields, List.length_append, List.length_cons] at ih ⊢
    omega

theorem skipBlanks_spacedText {l : List Char} (hl : ∀ c ∈ l, isJsonBlank c = true) {n : Nat} {v : Datum}
    (h : v.Storable n) (depth : Nat) (t : List Char) :
    skipBlanks (l ++ (spacedText gap mid depth v ++ t)) = spacedText gap mid depth v ++ t := by
  obtain ⟨c, cs, hc, hb, _⟩ := spacedText_head gap mid h depth
  refine skipBlanks_append hl ?_
  rw [hc]
  intro d hd
  cases hd
  exact hb

/-- What it means that a value is read back from its layout, whatever follows. -/
def ReadsBack (gap : Nat → List Char) (mid : List Char) (n : Nat) (v : Datum) : Prop :=
  ∀ depth t, Stops t → value? n (spacedText gap mid depth v ++ t) = some (v, t)

variable {gap mid} (hgap : ∀ n, ∀ c ∈ gap n, isJsonBlank c = true) (hmid : ∀ c ∈ mid, isJsonBlank c = true)

include hgap

theorem items?_spacedItems {n : Nat} (depth outer : Nat) (t : List Char) : ∀ {l : List Datum}, l ≠ [] →
    (∀ v ∈ l, v.Storable n ∧ ReadsBack gap mid n v) → ∀ {fuel : Nat}, l.length ≤ fuel →
    items? (value? n) fuel (spacedItems gap mid depth l ++ gap outer ++ ']' :: t) = some (l, t)
  | [], hne, _, _, _ => absurd rfl hne
  | [v], _, h, 0, hf => absurd hf (by simp)
  | v :: w :: l, _, h, 0, hf => absurd hf (by simp)
  | [v], _, h, fuel + 1, _ => by
    obtain ⟨hs, hr⟩ := h v (List.mem_cons_self ..)
    have hstop : Stops (gap outer ++ ']' :: t) := stops_of_blank (hgap outer) (stops_cons (by decide) t)
    have hend := skipBlanks_append (hgap outer) (blank_head? (c := ']') (by decide) t)
    unfold items?
    simp only [spacedItems, List.append_assoc, skipBlanks_spacedText gap mid (hgap depth) hs, hr depth _ hstop, hend,
      Option.bind_eq_bind, Option.bind_some, Option.pure_def]
  | v :: w :: l, _, h, fuel + 1, hf => by
    obtain ⟨hs, hr⟩ := h v (List.mem_cons_self ..)
    have hf' : (w :: l).length ≤ fuel := by simpa using hf
    have ih := items?_spacedItems depth outer t (List.cons_ne_nil w l) (fun u hu => h u (List.mem_cons_of_mem v hu)) hf'
    rw [List.append_assoc] at ih
    unfold items?
    simp only [spacedItems, List.append_assoc, List.cons_append, skipBlanks_spacedText gap mid (hgap depth) hs,
      hr depth _ (stops_cons (show Follows ',' by decide) _), skipBlanks_cons (show isJsonBlank ',' = false by decide),
      ih, Option.bind_eq_bind, Option.bind_some, Option.pure_def]

theorem empty?_spacedItems {n : Nat} {v : Datum} (hs : v.Storable n) (depth : Nat) (l : List Datum) (t : List Char) :
    empty? ('[' :: (spacedItems gap mid depth (v :: l) ++ t)) = none := by
  obtain ⟨c, cs, hc, _, hclose⟩ := spacedText_head gap mid hs depth
  have hskip := fun r => skipBlanks_spacedText gap mid (hgap depth) hs depth r
  cases l <;>
    · unfold empty?
      simp only [spacedItems, List.append_assoc, hskip]
      rw [hc]
      split
      · next heq => exact absurd (List.cons.inj heq).1 hclose
      · rfl

theorem empty?_spacedFields (depth : Nat) (f : String × Datum) (l : List (String × Datum)) (t : List Char) :
    empty? ('{' :: (spacedFields gap mid depth (f :: l) ++ t)) = none := by
  have hskip := fun r => skipBlanks_append (hgap depth) (blank_head? (c := '"') (by decide) r)
  cases l <;>
    · unfold empty?
      simp only [spacedFields, quote, List.append_assoc, List.cons_append, hskip]
      rfl

theorem value?_list {n : Nat} {l : List Datum} (hne : l ≠ []) (h : ∀ v ∈ l, v.Storable n ∧ ReadsBack gap mid n v)
    (depth outer : Nat) (t : List Char) :
    value? (n + 1) ('[' :: (spacedItems gap mid depth l ++ gap outer ++ ']' :: t)) = some (.list l, t) := by
  have hfuel : l.length ≤ (spacedItems gap mid depth l ++ gap outer ++ ']' :: t).length + 1 := by
    have hl := length_spacedItems gap mid depth fun v hv => (h v hv).1
    rw [List.length_append, List.length_append]
    omega
  have hempty : empty? ('[' :: (spacedItems gap mid depth l ++ gap outer ++ ']' :: t)) = none := by
    obtain ⟨v, l, rfl⟩ := List.exists_cons_of_ne_nil hne
    rw [List.append_assoc]
    exact empty?_spacedItems hgap (h v (List.mem_cons_self ..)).1 depth l _
  unfold value?
  simp only [hempty, items?_spacedItems hgap depth outer t hne h hfuel, Option.map_some]

include hmid

theorem fields?_spacedFields {n : Nat} (depth outer : Nat) (t : List Char) : ∀ {l : List (String × Datum)}, l ≠ [] →
    (∀ f ∈ l, f.2.Storable n ∧ ReadsBack gap mid n f.2) → ∀ {fuel : Nat}, l.length ≤ fuel →
    fields? (value? n) fuel (spacedFields gap mid depth l ++ gap outer ++ '}' :: t) = some (l, t)
  | [], hne, _, _, _ => absurd rfl hne
  | [f], _, h, 0, hf => absurd hf (by simp)
  | f :: g :: l, _, h, 0, hf => absurd hf (by simp)
  | [(k, v)], _, h, fuel + 1, _ => by
    obtain ⟨hs, hr⟩ := h (k, v) (List.mem_cons_self ..)
    have hquote := fun r => skipBlanks_append (hgap depth) (blank_head? (c := '"') (by decide) r)
    have hstop : Stops (gap outer ++ '}' :: t) := stops_of_blank (hgap outer) (stops_cons (by decide) t)
    have hend := skipBlanks_append (hgap outer) (blank_head? (c := '}') (by decide) t)
    unfold fields?
    simp only [spacedFields, quote, List.append_assoc, List.cons_append, List.nil_append, hquote, stringRest?_quote,
      skipBlanks_cons (show isJsonBlank ':' = false by decide), skipBlanks_spacedText gap mid hmid hs,
      hr depth _ hstop, hend, Option.bind_eq_bind, Option.bind_some, Option.pure_def, String.ofList_toList]
  | (k, v) :: g :: l, _, h, fuel + 1, hf => by
    obtain ⟨hs, hr⟩ := h (k, v) (List.mem_cons_self ..)
    have hf' : (g :: l).length ≤ fuel := by simpa using hf
    have ih := fields?_spacedFields depth outer t (List.cons_ne_nil g l)
      (fun u hu => h u (List.mem_cons_of_mem (k, v) hu)) hf'
    rw [List.append_assoc] at ih
    have hquote := fun r => skipBlanks_append (hgap depth) (blank_head? (c := '"') (by decide) r)
    unfold fields?
    simp only [spacedFields, quote, List.append_assoc, List.cons_append, List.nil_append, hquote, stringRest?_quote,
      skipBlanks_cons (show isJsonBlank ':' = false by decide), skipBlanks_spacedText gap mid hmid hs,
      hr depth _ (stops_cons (show Follows ',' by decide) _),
      skipBlanks_cons (show isJsonBlank ',' = false by decide), ih, Option.bind_eq_bind, Option.bind_some,
      Option.pure_def, String.ofList_toList]

theorem value?_record {n : Nat} {l : List (String × Datum)} (hne : l ≠ []) (hn : (l.map Prod.fst).Nodup)
    (h : ∀ f ∈ l, f.2.Storable n ∧ ReadsBack gap mid n f.2) (depth outer : Nat) (t : List Char) :
    value? (n + 1) ('{' :: (spacedFields gap mid depth l ++ gap outer ++ '}' :: t)) = some (.record l, t) := by
  have hfuel : l.length ≤ (spacedFields gap mid depth l ++ gap outer ++ '}' :: t).length + 1 := by
    have hl := length_spacedFields gap mid depth l
    rw [List.length_append, List.length_append]
    omega
  have hempty : empty? ('{' :: (spacedFields gap mid depth l ++ gap outer ++ '}' :: t)) = none := by
    obtain ⟨f, l, rfl⟩ := List.exists_cons_of_ne_nil hne
    rw [List.append_assoc]
    exact empty?_spacedFields hgap depth f l _
  unfold value?
  simp only [hempty, fields?_spacedFields hgap hmid depth outer t hne h hfuel, Option.map_some, mergeFields_of_nodup hn]

theorem value?_spacedText {n : Nat} {v : Datum} (h : v.Storable n) : ReadsBack gap mid n v := by
  -- Along the derivation: a part is read with one level less to go, and stands one level further in.
  induction h with
  | @null n =>
    intro depth t _
    simp only [spacedText, scalarText]
    exact value?_eq_scalar? n (c := 'n') (by decide) (by decide) (['u', 'l', 'l'] ++ t)
  | @flag n b =>
    intro depth t _
    simp only [spacedText, scalarText]
    cases b with
    | false => exact value?_eq_scalar? n (c := 'f') (by decide) (by decide) (['a', 'l', 's', 'e'] ++ t)
    | true => exact value?_eq_scalar? n (c := 't') (by decide) (by decide) (['r', 'u', 'e'] ++ t)
  | @int n i =>
    intro depth t ht
    simp only [spacedText, scalarText, intText]
    by_cases hi : i < 0
    · rw [if_pos hi, List.cons_append, value?_eq_scalar? n (by decide) (by decide), scalar?_minus _ ht]
      rw [show (-(i.natAbs : Int)) = i by omega]
    · obtain ⟨c, cs, hc, hd⟩ := exists_digit i.natAbs
      have hscalar := scalar?_digits i.natAbs ht
      have hlist : c ≠ '[' := by rintro rfl; revert hd; decide
      have hrecord : c ≠ '{' := by rintro rfl; revert hd; decide
      rw [if_neg hi, hc, List.cons_append, value?_eq_scalar? n hlist hrecord, ← List.cons_append, ← hc, hscalar]
      rw [show (i.natAbs : Int) = i by omega]
  | text s =>
    intro depth t _
    simp only [spacedText, scalarText, quote, List.cons_append]
    rw [value?_eq_scalar? _ (by decide) (by decide)]
    simp only [scalar?, List.append_assoc, List.cons_append, List.nil_append, stringRest?_quote, Option.map_some,
      String.ofList_toList]
  | emptyList =>
    intro depth t _
    simp only [spacedText, List.cons_append, List.nil_append]
    exact value?_empty _ rfl
  | emptyRecord =>
    intro depth t _
    simp only [spacedText, List.cons_append, List.nil_append]
    exact value?_empty _ rfl
  | @list n items h ih =>
    intro depth t _
    cases items with
    | nil =>
      simp only [spacedText, List.cons_append, List.nil_append]
      rfl
    | cons v l =>
      have := value?_list hgap (List.cons_ne_nil v l) (fun u hu => ⟨h u hu, ih u hu⟩) (depth + 1) depth t
      simpa only [spacedText, List.cons_append, List.append_assoc, List.nil_append] using this
  | @record n fields hn h ih =>
    intro depth t _
    cases fields with
    | nil =>
      simp only [spacedText, List.cons_append, List.nil_append]
      rfl
    | cons f l =>
      have := value?_record hgap hmid (List.cons_ne_nil f l) hn (fun g hg => ⟨h g hg, ih g hg⟩) (depth + 1) depth t
      simpa only [spacedText, List.cons_append, List.append_assoc, List.nil_append] using this

end

/-! ## Whole texts -/

theorem parse?_spacedText {gap : Nat → List Char} {mid : List Char} (hgap : ∀ n, ∀ c ∈ gap n, isJsonBlank c = true)
    (hmid : ∀ c ∈ mid, isJsonBlank c = true) {n : Nat} {v : Datum} (h : v.Storable n) :
    parse? n (spacedText gap mid 0 v) = some v := by
  have hskip := skipBlanks_spacedText gap mid (l := []) (by simp) h 0 []
  have hread := value?_spacedText hgap hmid h 0 [] (by intro c hc; simp at hc)
  rw [List.nil_append, List.append_nil] at hskip
  rw [List.append_nil] at hread
  unfold parse?
  rw [hskip, hread]
  rfl

theorem isJsonBlank_of_mem_newLine (n : Nat) : ∀ c ∈ newLine n, isJsonBlank c = true := by
  intro c hc
  rw [newLine, List.mem_cons] at hc
  rcases hc with rfl | hc
  · rfl
  · rw [(List.mem_replicate.mp hc).2]
    rfl

theorem parse?_indented {n : Nat} {v : Datum} (h : v.Storable n) : parse? n (indented v).toList = some v := by
  rw [indented, String.toList_ofList, indentedText_eq]
  exact parse?_spacedText isJsonBlank_of_mem_newLine (by simp [isJsonBlank]) h

theorem parse?_compact {n : Nat} {v : Datum} (h : v.Storable n) : parse? n (compact v).toList = some v := by
  rw [compact, String.toList_ofList, compactText_eq 0]
  exact parse?_spacedText (by simp) (by simp) h

/-! ## The characters of a text -/

section
variable {gap : Nat → List Char} {mid : List Char} {p : Char → Prop} (hp : ∀ c, IsPrintable c → p c)
  (hgap : ∀ n, ∀ c ∈ gap n, p c) (hmid : ∀ c ∈ mid, p c)

include hp hgap

theorem forall_spacedItems (depth : Nat) : ∀ {l : List Datum}, (∀ v ∈ l, ∀ c ∈ spacedText gap mid depth v, p c) →
    ∀ c ∈ spacedItems gap mid depth l, p c
  | [], _ => by simp [spacedItems]
  | [v], h => by
    simp only [spacedItems, List.forall_mem_append]
    exact ⟨hgap depth, h v (List.mem_cons_self ..)⟩
  | v :: w :: l, h => by
    simp only [spacedItems, List.forall_mem_append, List.forall_mem_cons]
    exact ⟨⟨hgap depth, h v (List.mem_cons_self ..)⟩, hp ',' (by decide),
      forall_spacedItems depth fun u hu => h u (List.mem_cons_of_mem v hu)⟩

include hmid

theorem forall_spacedFields (depth : Nat) : ∀ {l : List (String × Datum)},
    (∀ f ∈ l, ∀ c ∈ spacedText gap mid depth f.2, p c) → ∀ c ∈ spacedFields gap mid depth l, p c
  | [], _ => by simp [spacedFields]
  | [(k, v)], h => by
    simp only [spacedFields, List.forall_mem_append, List.forall_mem_cons]
    exact ⟨⟨hgap depth, fun c hc => hp c (isPrintable_quote k.toList c hc)⟩, hp ':' (by decide), hmid,
      h (k, v) (List.mem_cons_self ..)⟩
  | (k, v) :: f :: l, h => by
    simp only [spacedFields, List.forall_mem_append, List.forall_mem_cons]
    exact ⟨⟨hgap depth, fun c hc => hp c (isPrintable_quote k.toList c hc)⟩, hp ':' (by decide), hmid,
      h (k, v) (List.mem_cons_self ..), hp ',' (by decide),
      forall_spacedFields depth fun g hg => h g (List.mem_cons_of_mem (k, v) hg)⟩

theorem forall_spacedText {n : Nat} {v : Datum} (h : v.Storable n) (depth : Nat) :
    ∀ c ∈ spacedText gap mid depth v, p c := by
  induction h generalizing depth with
  | null =>
    have hword : ∀ c ∈ ['n', 'u', 'l', 'l'], IsPrintable c := by simp [IsPrintable]
    simp only [spacedText]
    exact fun c hc => hp c (hword c hc)
  | flag b =>
    have hword : ∀ c ∈ scalarText (.flag b), IsPrintable c := by cases b <;> simp [scalarText, IsPrintable]
    simp only [spacedText]
    exact fun c hc => hp c (hword c hc)
  | int i =>
    have hdigits : ∀ c ∈ Nat.toDigits 10 i.natAbs, p c := fun c hc => by
      have := isAsciiDigit_iff.mp (isAsciiDigit_toDigits hc)
      exact hp c ⟨by omega, by omega⟩
    simp only [spacedText, scalarText, intText]
    split
    · exact List.forall_mem_cons.mpr ⟨hp '-' (by decide), hdigits⟩
    · exact hdigits
  | text s =>
    simp only [spacedText, scalarText]
    exact fun c hc => hp c (isPrintable_quote _ c hc)
  | emptyList =>
    simp only [spacedText, List.forall_mem_cons]
    exact ⟨hp _ (by decide), hp _ (by decide), by simp⟩
  | emptyRecord =>
    simp only [spacedText, List.forall_mem_cons]
    exact ⟨hp _ (by decide), hp _ (by decide), by simp⟩
  | @list n items _ ih =>
    have hitems := forall_spacedItems hp hgap (depth + 1) fun v hv => ih v hv (depth + 1)
    have hopen : p '[' := hp _ (by decide)
    have hclose : p ']' := hp _ (by decide)
    cases items with
    | nil =>
      simp only [spacedText, List.forall_mem_cons]
      exact ⟨hopen, hclose, by simp⟩
    | cons v l =>
      simp only [spacedText, List.forall_mem_cons, List.forall_mem_append]
      exact ⟨hopen, ⟨hitems, hgap depth⟩, hclose, by simp⟩
  | @record n fields _ _ ih =>
    have hfields := forall_spacedFields hp hgap hmid (depth + 1) fun f hf => ih f hf (depth + 1)
    have hopen : p '{' := hp _ (by decide)
    have hclose : p '}' := hp _ (by decide)
    cases fields with
    | nil =>
      simp only [spacedText, List.forall_mem_cons]
      exact ⟨hopen, hclose, by simp⟩
    | cons f l =>
      simp only [spacedText, List.forall_mem_cons, List.forall_mem_append]
      exact ⟨hopen, ⟨hfields, hgap depth⟩, hclose, by simp⟩

end

theorem isPrintable_indented {n : Nat} {v : Datum} (h : v.Storable n) :
    ∀ c ∈ (indented v).toList, IsPrintable c ∨ c = '\n' := by
  rw [indented, String.toList_ofList, indentedText_eq]
  refine forall_spacedText (fun c => .inl) (fun k c hc => ?_) (by simp [IsPrintable]) h 0
  rw [newLine, List.mem_cons] at hc
  rcases hc with rfl | hc
  · exact .inr rfl
  · rw [(List.mem_replicate.mp hc).2]
    exact .inl (by decide)

theorem compact_inj {n : Nat} {v w : Datum} (hv : v.Storable n) (hw : w.Storable n) :
    compact v = compact w ↔ v = w := by
  constructor
  · intro h
    have := parse?_compact hv
    rw [h, parse?_compact hw] at this
    exact (Option.some.inj this).symm
  · rintro rfl
    rfl

end Json

end SchemaConcord
