import SchemaConcord.Proofs.Files.Discovery

/-!
# What files give together

A scan gives the items of its files one after the other (`items_of_scanFiles`). Of the items that share a key the last
is kept, in the place of the first (`mem_lastOfEach`, `keys_lastOfEach`), so a merge loses nothing just when the keys
are distinct.
-/

namespace SchemaConcord

/-! ## Items of several files -/

def FileReading.itemsOf {ε α : Type} : FileReading ε α → List α
  | .items l => l
  | _ => []

theorem items_of_scanFiles {ε α : Type} {read : Path → FileReading ε α} {files : List Path} {items : List α}
    {warnings : List String} (h : scanFiles read files = .ok (items, warnings)) :
    items = files.flatMap fun p => (read p).itemsOf := by
  induction files generalizing items warnings with
  | nil =>
    cases h
    rfl
  | cons p files ih =>
    unfold scanFiles at h
    cases hrest : scanFiles read files with
    | error f =>
      rw [hrest] at h
      cases hp : read p <;> rw [hp] at h <;> cases h
    | ok rest =>
      rw [hrest] at h
      rw [List.flatMap_cons, ← ih hrest]
      cases hp : read p <;> rw [hp] at h <;> cases h <;> rfl

theorem mem_scanFiles {ε α : Type} {read : Path → FileReading ε α} {files : List Path} {items : List α}
    {warnings : List String} (h : scanFiles read files = .ok (items, warnings)) {a : α} :
    a ∈ items ↔ ∃ p ∈ files, ∃ l, read p = .items l ∧ a ∈ l := by
  rw [items_of_scanFiles h, List.mem_flatMap]
  refine exists_congr fun p => and_congr_right fun _ => ⟨fun ha => ?_, fun ⟨l, hl, ha⟩ => ?_⟩
  · cases hp : read p with
    | items l =>
      rw [hp] at ha
      exact ⟨l, rfl, ha⟩
    | skipped cause => rw [hp] at ha; cases ha
    | broken f => rw [hp] at ha; cases ha
  · rw [hl]
    exact ha

/-! ## The last of each key -/

namespace Datum

variable {α : Type} {name k : String} {a : α} {l : List (String × α)}

theorem lookup_putField : (putField name a l).lookup k = if k = name then some a else l.lookup k := by
  induction l with
  | nil =>
    by_cases hk : k = name
    · simp [putField, hk]
    · simp [putField, List.lookup_cons, beq_false_of_ne hk, hk]
  | cons f l ih =>
    obtain ⟨n, old⟩ := f
    unfold putField
    by_cases hn : n = name
    · subst hn
      by_cases hk : k = n
      · simp [hk]
      · simp [List.lookup_cons, beq_false_of_ne hk, hk]
    · rw [if_neg hn, List.lookup_cons, List.lookup_cons, ih]
      by_cases hk : k = n
      · subst hk
        simp [hn]
      · simp only [beq_false_of_ne hk]

theorem keys_putField : (putField name a l).map (·.1) =
    if name ∈ l.map (·.1) then l.map (·.1) else l.map (·.1) ++ [name] := by
  induction l with
  | nil => rfl
  | cons f l ih =>
    obtain ⟨n, old⟩ := f
    unfold putField
    by_cases hn : n = name
    · subst hn
      simp
    · rw [if_neg hn, List.map_cons, List.map_cons, ih]
      by_cases hmem : name ∈ l.map (·.1)
      · rw [if_pos hmem, if_pos (List.mem_cons_of_mem _ hmem)]
      · rw [if_neg hmem, if_neg, List.cons_append]
        exact fun h => (List.mem_cons.mp h).elim (hn ∘ Eq.symm) hmem

end Datum

section
variable {α : Type} {key : α → String} {l : List α}

/-- The entries of a list by their keys, a later one in the place of an earlier one. -/
def keptByKey (key : α → String) (l : List α) : List (String × α) :=
  l.foldl (fun kept a => Datum.putField (key a) a kept) []

theorem keptByKey_snoc (key : α → String) (l : List α) (a : α) :
    keptByKey key (l ++ [a]) = Datum.putField (key a) a (keptByKey key l) := by
  unfold keptByKey
  rw [List.foldl_append, List.foldl_cons, List.foldl_nil]

theorem lookup_keptByKey (key : α → String) (l : List α) (k : String) :
    (keptByKey key l).lookup k = l.reverse.find? (key · = k) := by
  induction l using List.reverseRecOn with
  | nil => rfl
  | append_singleton l a ih =>
    rw [keptByKey_snoc, Datum.lookup_putField, List.reverse_concat, List.find?_cons, ih]
    by_cases hk : k = key a
    · simp [hk]
    · simp [hk, Ne.symm hk]

theorem keys_keptByKey (key : α → String) (l : List α) : (keptByKey key l).map (·.1) = (l.map key).eraseDups := by
  induction l using List.reverseRecOn with
  | nil => rfl
  | append_singleton l a ih =>
    rw [keptByKey_snoc, Datum.keys_putField, ih, List.map_append, List.map_singleton, eraseDups_snoc]
    simp only [List.mem_eraseDups]

theorem mem_keptByKey {k : String} {a : α} : (k, a) ∈ keptByKey key l ↔ l.reverse.find? (key · = k) = some a := by
  rw [← lookup_keptByKey]
  refine ⟨lookup_of_mem ?_, mem_of_lookup⟩
  rw [keys_keptByKey]
  exact nodup_eraseDups _

theorem key_of_mem_keptByKey {k : String} {a : α} (h : (k, a) ∈ keptByKey key l) : key a = k := by
  simpa using List.find?_some (mem_keptByKey.mp h)

theorem mem_lastOfEach {a : α} : a ∈ lastOfEach key l ↔
    ∃ before after, l = before ++ a :: after ∧ ∀ b ∈ after, key b ≠ key a := by
  have hlast : a ∈ lastOfEach key l ↔ l.reverse.find? (key · = key a) = some a := by
    rw [← mem_keptByKey]
    refine ⟨fun h => ?_, fun h => List.mem_map_of_mem (f := (·.2)) h⟩
    obtain ⟨⟨k, _⟩, hkept, rfl⟩ := List.mem_map.mp h
    rwa [key_of_mem_keptByKey hkept]
  rw [hlast, List.find?_eq_some_iff_append]
  constructor
  · rintro ⟨_, after, before, hl, hafter⟩
    refine ⟨before.reverse, after.reverse, ?_, fun b hb => by simpa using hafter b (List.mem_reverse.mp hb)⟩
    rw [← List.reverse_reverse l, hl]
    simp
  · rintro ⟨before, after, rfl, hafter⟩
    refine ⟨by simp, after.reverse, before.reverse, by simp, fun b hb => ?_⟩
    simpa using hafter b (List.mem_reverse.mp hb)

theorem keys_lastOfEach (key : α → String) (l : List α) : (lastOfEach key l).map key = (l.map key).eraseDups := by
  rw [← keys_keptByKey]
  refine List.map_map.trans (List.map_congr_left fun p hp => ?_)
  show key p.2 = p.1
  exact key_of_mem_keptByKey hp

theorem lastOfEach_subset : lastOfEach key l ⊆ l := by
  intro a ha
  obtain ⟨before, after, rfl, _⟩ := mem_lastOfEach.mp ha
  exact List.mem_append_right before (List.mem_cons_self ..)

theorem exists_lastOfEach {a : α} (h : a ∈ l) : ∃ b ∈ lastOfEach key l, key b = key a := by
  have hkey : key a ∈ (lastOfEach key l).map key := by
    rw [keys_lastOfEach, List.mem_eraseDups]
    exact List.mem_map_of_mem h
  exact List.mem_map.mp hkey

theorem lastOfEach_of_nodup (h : (l.map key).Nodup) : lastOfEach key l = l := by
  have hkeys : (lastOfEach key l).map key = l.map key := by rw [keys_lastOfEach, eraseDups_of_nodup h]
  have heq : (lastOfEach key l).map id = l.map id := (map_eq_map_iff h hkeys).mpr fun a ha b hb hab =>
    List.inj_on_of_nodup_map h (lastOfEach_subset hb) ha hab
  rwa [List.map_id, List.map_id] at heq

end

end SchemaConcord
