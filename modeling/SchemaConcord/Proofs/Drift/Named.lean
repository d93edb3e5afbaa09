import Mathlib.Data.List.Nodup
import Mathlib.Data.List.Perm.Basic
import SchemaConcord.Drift.Compare
import SchemaConcord.Proofs.Lists
import SchemaConcord.Proofs.Text.Edit

/-!
# Lists compared by name

`compareNamed` sorts names and looks entries up. When the names in each list are distinct it lists, up to order, what
`diffNamed` lists without either: the entries whose name the other list lacks, and for every two entries of one name
what they differ in (`compareNamed_perm`).
-/

namespace SchemaConcord

open Text

variable {α β : Type} {name : α → String}

/-! ## Looking up a name -/

theorem lastNamed?_mem {l : List α} {n : String} {a : α} (h : lastNamed? name l n = some a) : a ∈ l ∧ name a = n := by
  unfold lastNamed? at h
  exact ⟨List.mem_reverse.mp (List.mem_of_find?_eq_some h), by simpa using List.find?_some h⟩

theorem lastNamed?_of_not_mem {l : List α} {n : String} (h : n ∉ l.map name) : lastNamed? name l n = none := by
  cases hl : lastNamed? name l n with
  | none => rfl
  | some a =>
    obtain ⟨ha, hn⟩ := lastNamed?_mem hl
    exact absurd (List.mem_map.mpr ⟨a, ha, hn⟩) h

theorem eq_of_name {l : List α} (hl : (l.map name).Nodup) {a b : α} (ha : a ∈ l) (hb : b ∈ l) (h : name a = name b) :
    a = b :=
  List.inj_on_of_nodup_map hl ha hb h

theorem lastNamed?_of_mem {l : List α} (hl : (l.map name).Nodup) {a : α} (ha : a ∈ l) :
    lastNamed? name l (name a) = some a := by
  cases hf : lastNamed? name l (name a) with
  | none =>
    unfold lastNamed? at hf
    have := List.find?_eq_none.mp hf a (List.mem_reverse.mpr ha)
    simp at this
  | some b =>
    obtain ⟨hb, hn⟩ := lastNamed?_mem hf
    rw [eq_of_name hl hb ha hn]

theorem mem_sortedNames {l : List α} {n : String} : n ∈ sortedNames name l ↔ n ∈ l.map name := by
  rw [sortedNames, mem_sortTexts, List.mem_eraseDups]

theorem sortedNames_perm {l : List α} (hl : (l.map name).Nodup) : (sortedNames name l).Perm (l.map name) := by
  rw [sortedNames, eraseDups_of_nodup hl]
  exact sortTexts_perm _

theorem filter_name_eq {l : List α} (hl : (l.map name).Nodup) (n : String) :
    l.filter (name · = n) = (lastNamed? name l n).toList := by
  cases hf : lastNamed? name l n with
  | none =>
    rw [Option.toList_none, List.filter_eq_nil_iff]
    intro a ha hn
    rw [decide_eq_true_eq] at hn
    rw [← hn, lastNamed?_of_mem hl ha] at hf
    cases hf
  | some a =>
    obtain ⟨ha, rfl⟩ := lastNamed?_mem hf
    have hnd : (l.filter (name · = name a)).Nodup := hl.of_map.filter _
    rw [Option.toList_some]
    refine List.perm_singleton.mp ((List.perm_ext_iff_of_nodup hnd (List.nodup_singleton a)).mpr fun b => ?_)
    rw [List.mem_filter, List.mem_singleton, decide_eq_true_eq]
    constructor
    · intro h; exact eq_of_name hl h.1 ha h.2
    · rintro rfl; exact ⟨ha, rfl⟩

/-! ## Differences -/

def lacking (name : α → String) (l other : List α) : List α := l.filter fun a => !(other.map name).contains (name a)

/-- What two lists differ in: what only the first has, what only the second has, and what two entries of one name
differ in. -/
def diffNamed (name : α → String) (expected actual : List α) (missing extra : α → β) (shared : α → α → List β) :
    List β :=
  (lacking name expected actual).map missing ++ (lacking name actual expected).map extra ++
    expected.flatMap fun a => (actual.filter (name · = name a)).flatMap (shared a)

theorem mem_lacking {l other : List α} {a : α} : a ∈ lacking name l other ↔ a ∈ l ∧ name a ∉ other.map name := by
  rw [lacking, List.mem_filter, Bool.not_eq_true', List.contains_eq_mem, decide_eq_false_iff_not]

theorem mem_diffNamed {expected actual : List α} {missing extra : α → β} {shared : α → α → List β} {x : β} :
    x ∈ diffNamed name expected actual missing extra shared ↔
      (∃ a ∈ expected, name a ∉ actual.map name ∧ x = missing a) ∨
      (∃ a ∈ actual, name a ∉ expected.map name ∧ x = extra a) ∨
      ∃ a ∈ expected, ∃ b ∈ actual, name b = name a ∧ x ∈ shared a b := by
  simp only [diffNamed, List.mem_append, List.mem_map, List.mem_flatMap, mem_lacking, List.mem_filter,
    decide_eq_true_eq, and_assoc, or_assoc, eq_comm (a := x)]

theorem map_diffNamed {γ : Type} (f : β → γ) (expected actual : List α) (missing extra : α → β)
    (shared : α → α → List β) :
    (diffNamed name expected actual missing extra shared).map f =
      diffNamed name expected actual (f ∘ missing) (f ∘ extra) (fun a b => (shared a b).map f) := by
  simp only [diffNamed, List.map_append, List.map_map, List.map_flatMap]

theorem diffNamed_perm {expected actual : List α} {missing extra : α → β} {shared shared' : α → α → List β}
    (h : ∀ a ∈ expected, ∀ b ∈ actual, name b = name a → (shared a b).Perm (shared' a b)) :
    (diffNamed name expected actual missing extra shared).Perm
      (diffNamed name expected actual missing extra shared') := by
  refine List.Perm.append_left _ (List.Perm.flatMap_left _ fun a ha => List.Perm.flatMap_left _ fun b hb => ?_)
  rw [List.mem_filter, decide_eq_true_eq] at hb
  exact h a ha b hb.1 hb.2

/-- No difference is listed twice, when differences tell the names they come from. -/
theorem nodup_diffNamed {expected actual : List α} (he : (expected.map name).Nodup) (ha : (actual.map name).Nodup)
    {missing extra : α → β} {shared : α → α → List β} (hm : missing.Injective) (hx : extra.Injective)
    (hmx : ∀ a b, missing a ≠ extra b) (hs : ∀ a ∈ expected, ∀ b ∈ actual, (shared a b).Nodup)
    (hms : ∀ a b c, missing c ∉ shared a b) (hxs : ∀ a b c, extra c ∉ shared a b)
    (hn : ∀ {a b a' b' x}, x ∈ shared a b → x ∈ shared a' b' → name a = name a') :
    (diffNamed name expected actual missing extra shared).Nodup := by
  have hmissing := (he.of_map.filter fun a => !(actual.map name).contains (name a)).map hm
  have hextra := (ha.of_map.filter fun a => !(expected.map name).contains (name a)).map hx
  -- Names tell the pairs apart, and each pair has no difference twice.
  have hshared : (expected.flatMap fun a => (actual.filter (name · = name a)).flatMap (shared a)).Nodup := by
    refine List.nodup_flatMap.mpr ⟨fun a hmem => ?_, ?_⟩
    · rw [filter_name_eq ha]
      cases hf : lastNamed? name actual (name a) with
      | none => exact List.nodup_nil
      | some b => rw [Option.toList_some, List.flatMap_singleton]; exact hs a hmem b (lastNamed?_mem hf).1
    · refine (List.pairwise_map.mp he).imp fun {a a'} hne x hx hx' => hne ?_
      obtain ⟨b, _, hb⟩ := List.mem_flatMap.mp hx
      obtain ⟨b', _, hb'⟩ := List.mem_flatMap.mp hx'
      exact hn hb hb'
  refine List.nodup_append.mpr ⟨List.nodup_append.mpr ⟨hmissing, hextra, ?_⟩, hshared, ?_⟩
  · intro x hx y hy e
    obtain ⟨a, _, rfl⟩ := List.mem_map.mp hx
    obtain ⟨b, _, rfl⟩ := List.mem_map.mp hy
    exact hmx a b e
  · rintro x hx y hy rfl
    obtain ⟨a, _, hy⟩ := List.mem_flatMap.mp hy
    obtain ⟨b, _, hy⟩ := List.mem_flatMap.mp hy
    rcases List.mem_append.mp hx with hx | hx
    · obtain ⟨c, _, rfl⟩ := List.mem_map.mp hx
      exact hms a b c hy
    · obtain ⟨c, _, rfl⟩ := List.mem_map.mp hx
      exact hxs a b c hy

theorem nodup_diffNamed_ite {expected actual : List α} (he : (expected.map name).Nodup) (ha : (actual.map name).Nodup)
    {missing extra : α → β} {p : α → α → Prop} [∀ a b, Decidable (p a b)] {change : α → α → β}
    (hm : missing.Injective) (hx : extra.Injective) (hmx : ∀ a b, missing a ≠ extra b)
    (hmc : ∀ a b c, missing c ≠ change a b) (hxc : ∀ a b c, extra c ≠ change a b)
    (hc : ∀ {a b a' b'}, change a b = change a' b' → a = a') :
    (diffNamed name expected actual missing extra fun a b => if p a b then [] else [change a b]).Nodup := by
  refine nodup_diffNamed he ha hm hx hmx (fun a _ b _ => ?_) (fun a b c h => ?_) (fun a b c h => ?_) ?_
  · split <;> simp
  · rw [List.mem_ite_nil_left, List.mem_singleton] at h
    exact hmc a b c h.2
  · rw [List.mem_ite_nil_left, List.mem_singleton] at h
    exact hxc a b c h.2
  · intro a b a' b' x h h'
    rw [List.mem_ite_nil_left, List.mem_singleton] at h h'
    rw [hc (h.2.symm.trans h'.2)]

/-! ## The comparison of named lists -/

/-- Going through the names of a list in order and looking each up meets every entry once. -/
theorem lookups_perm {l : List α} (hl : (l.map name).Nodup) (p : String → Bool) (f : String → α → β) :
    (((sortedNames name l).filter p).filterMap fun n => (lastNamed? name l n).map (f n)).Perm
      ((l.filter (p <| name ·)).map fun a => f (name a) a) := by
  refine (((sortedNames_perm hl).filter p).filterMap _).trans (.of_eq ?_)
  rw [List.filter_map, List.filterMap_map, ← List.filterMap_eq_map]
  refine List.filterMap_congr fun a ha => ?_
  have := lastNamed?_of_mem hl (List.mem_of_mem_filter ha)
  simp only [Function.comp_apply, this, Option.map_some]

theorem compareNamed_perm {expected actual : List α} (he : (expected.map name).Nodup) (ha : (actual.map name).Nodup)
    (missing extra : String → α → Drift) (shared : String → α → α → List Drift) :
    (compareNamed name expected actual missing extra shared).Perm
      (diffNamed name expected actual (fun a => missing (name a) a) (fun a => extra (name a) a)
        fun a b => shared (name a) a b) := by
  have hin : ∀ (l : List α) (n : String), (sortedNames name l).contains n = (l.map name).contains n := by
    intro l n
    rw [Bool.eq_iff_iff, List.contains_iff_mem, List.contains_iff_mem, mem_sortedNames]
  unfold compareNamed diffNamed lacking
  simp only [hin]
  refine ((lookups_perm he _ missing).append (lookups_perm ha _ extra)).append ?_
  refine (((sortedNames_perm he).filter _).flatMap_right _).trans (.of_eq ?_)
  rw [List.filter_map, List.flatMap_map]
  refine flatMap_filter_eq (fun a hmem hp => ?_) (fun a hmem hp => ?_)
  · rw [filter_name_eq ha, lastNamed?_of_mem he hmem]
    obtain ⟨b, hb, hn⟩ := List.mem_map.mp (mem_sortedNames.mp (List.contains_iff_mem.mp hp))
    rw [← hn, lastNamed?_of_mem ha hb, Option.toList_some, List.flatMap_singleton]
  · have hn : name a ∉ actual.map name := by
      intro h
      rw [Function.comp_apply, ← Bool.not_eq_true, List.contains_iff_mem] at hp
      exact hp (mem_sortedNames.mpr h)
    rw [filter_name_eq ha, lastNamed?_of_not_mem hn, Option.toList_none, List.flatMap_nil]

/-- What is found for the names that one list has and the other lacks. -/
theorem mem_lookups {l other : List α} {f : String → α → Drift} {d : Drift}
    (h : d ∈ ((sortedNames name l).filter (!(sortedNames name other).contains ·)).filterMap fun n =>
      (lastNamed? name l n).map (f n)) : ∃ a ∈ l, name a ∉ other.map name ∧ d = f (name a) a := by
  obtain ⟨n, hn, hd⟩ := List.mem_filterMap.mp h
  obtain ⟨a, ha, rfl⟩ := Option.map_eq_some_iff.mp hd
  obtain ⟨hmem, rfl⟩ := lastNamed?_mem ha
  have hother : name a ∉ sortedNames name other := by simpa using (List.mem_filter.mp hn).2
  exact ⟨a, hmem, fun hmem => hother (mem_sortedNames.mpr hmem), rfl⟩

section
variable {expected actual : List α} {missing extra : String → α → Drift} {shared : String → α → α → List Drift}

/-- All that a comparison can list, also when names are not distinct. -/
theorem mem_compareNamed {d : Drift} (h : d ∈ compareNamed name expected actual missing extra shared) :
    (∃ a ∈ expected, name a ∉ actual.map name ∧ d = missing (name a) a) ∨
      (∃ b ∈ actual, name b ∉ expected.map name ∧ d = extra (name b) b) ∨
        ∃ a ∈ expected, ∃ b ∈ actual, name b = name a ∧ d ∈ shared (name a) a b := by
  rcases List.mem_append.mp h with h | h
  · rcases List.mem_append.mp h with h | h
    · exact .inl (mem_lookups h)
    · exact .inr (.inl (mem_lookups h))
  · obtain ⟨n, _, hd⟩ := List.mem_flatMap.mp h
    cases he : lastNamed? name expected n with
    | none => simp [he] at hd
    | some a =>
      cases ha : lastNamed? name actual n with
      | none => simp [he, ha] at hd
      | some b =>
        obtain ⟨hamem, rfl⟩ := lastNamed?_mem he
        obtain ⟨hbmem, hb⟩ := lastNamed?_mem ha
        exact .inr (.inr ⟨a, hamem, b, hbmem, hb, by simpa [he, ha] using hd⟩)

theorem forall_compareNamed {p : Drift → Prop} (hm : ∀ n a, p (missing n a)) (hx : ∀ n a, p (extra n a))
    (hs : ∀ n a b, ∀ d ∈ shared n a b, p d) : ∀ d ∈ compareNamed name expected actual missing extra shared, p d := by
  intro d hd
  rcases mem_compareNamed hd with ⟨a, -, -, rfl⟩ | ⟨b, -, -, rfl⟩ | ⟨a, -, b, -, -, hd⟩
  · exact hm _ a
  · exact hx _ b
  · exact hs _ a b d hd

end

theorem compareNamed_self {l : List α} {missing extra : String → α → Drift} {shared : String → α → α → List Drift}
    (h : ∀ n, ∀ a ∈ l, shared n a a = []) : compareNamed name l l missing extra shared = [] := by
  have hnone : (sortedNames name l).filter (!(sortedNames name l).contains ·) = [] := by
    rw [List.filter_eq_nil_iff]
    intro n hn
    rw [List.contains_iff_mem.mpr hn]
    exact Bool.false_ne_true
  unfold compareNamed
  dsimp only
  rw [hnone, List.filterMap_nil, List.filterMap_nil, List.append_nil, List.nil_append, List.flatMap_eq_nil_iff]
  intro n _
  cases hf : lastNamed? name l n with
  | none => rfl
  | some a => exact h n a (lastNamed?_mem hf).1

theorem flatMap_lookup_perm {actual : List α} (ha : (actual.map name).Nodup) (expected : List α) (missing : α → β)
    (shared : α → α → List β) :
    (expected.flatMap fun a => (lastNamed? name actual (name a)).elim [missing a] (shared a)).Perm
      ((lacking name expected actual).map missing ++
        expected.flatMap fun a => (actual.filter (name · = name a)).flatMap (shared a)) := by
  -- As a listing over all that is expected, so that the two are joined name by name.
  have hmissing : (lacking name expected actual).map missing =
      expected.flatMap fun a => if (actual.map name).contains (name a) then [] else [missing a] := by
    rw [← List.flatMap_singleton' ((lacking name expected actual).map missing), List.flatMap_map, lacking]
    refine flatMap_filter_eq (fun a _ hp => ?_) (fun a _ hp => ?_)
    · rw [Bool.not_eq_true'] at hp
      simp only [hp, Bool.false_eq_true, if_false]
    · rw [Bool.not_eq_false'] at hp
      simp only [hp, if_true]
  rw [hmissing]
  refine List.Perm.trans (.of_eq ?_) (List.flatMap_append_perm expected _ _).symm
  refine List.flatMap_congr fun a _ => ?_
  rw [filter_name_eq ha]
  cases hf : lastNamed? name actual (name a) with
  | none =>
    have hn : (actual.map name).contains (name a) = false := by
      rw [← Bool.not_eq_true, List.contains_iff_mem, List.mem_map]
      rintro ⟨b, hb, hn⟩
      rw [← hn, lastNamed?_of_mem ha hb] at hf
      cases hf
    simp only [hn, Bool.false_eq_true, if_false, Option.elim_none, Option.toList_none, List.flatMap_nil,
      List.append_nil]
  | some b =>
    obtain ⟨hb, hn⟩ := lastNamed?_mem hf
    have hn : (actual.map name).contains (name a) = true := List.contains_iff_mem.mpr (List.mem_map.mpr ⟨b, hb, hn⟩)
    simp only [hn, if_true, Option.elim_some, Option.toList_some, List.flatMap_singleton, List.nil_append]

end SchemaConcord
