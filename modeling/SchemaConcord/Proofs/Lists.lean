import Mathlib.Data.List.Forall2
import Mathlib.Data.List.Induction
import Mathlib.Data.List.Nodup

/-!
# Lists

Facts about lists that know nothing of schemas: parts that may fail (`exists_mapM`, `mem_mapM`, `fault?_mapM`), closed
lists (`forall_of_all`), what is listed under a key, lists made piece by piece, that sorting and dropping what comes
again do not mind what is filtered out, and what sorting keeps of an order (`mergeSort_eq_iff`).
-/

namespace SchemaConcord

variable {ε α β γ : Type}

/-! ## Parts that may fail -/

theorem ok_bind (a : α) (f : α → Except ε β) : (Except.ok a >>= f) = f a := rfl

theorem bind_eq_ok {x : Except ε α} {f : α → Except ε β} {b : β} (h : x >>= f = .ok b) :
    ∃ a, x = .ok a ∧ f a = .ok b := by
  cases x with
  | error e => cases h
  | ok a => exact ⟨a, rfl, h⟩

theorem exists_mapM {f : α → Except ε β} {l : List α} (h : ∀ a ∈ l, ∃ b, f a = .ok b) :
    ∃ bs, l.mapM f = .ok bs := by
  induction l with
  | nil => exact ⟨[], rfl⟩
  | cons a l ih =>
    obtain ⟨b, hb⟩ := h a (List.mem_cons_self ..)
    obtain ⟨bs, hbs⟩ := ih fun c hc => h c (List.mem_cons_of_mem a hc)
    refine ⟨b :: bs, ?_⟩
    rw [List.mapM_cons, hb, hbs]
    rfl

theorem mem_mapM {f : α → Except ε β} {l : List α} {bs : List β} (h : l.mapM f = .ok bs) :
    ∀ b ∈ bs, ∃ a ∈ l, f a = .ok b := by
  induction l generalizing bs with
  | nil =>
    cases h
    exact fun b hb => nomatch hb
  | cons a l ih =>
    rw [List.mapM_cons] at h
    obtain ⟨b, hb, h⟩ := bind_eq_ok h
    obtain ⟨cs, hcs, h⟩ := bind_eq_ok h
    cases h
    intro c hc
    rcases List.mem_cons.mp hc with rfl | hc
    · exact ⟨a, List.mem_cons_self .., hb⟩
    · obtain ⟨e, he, hf⟩ := ih hcs c hc
      exact ⟨e, List.mem_cons_of_mem a he, hf⟩

theorem mem_of_mapM {f : α → Except ε β} {l : List α} {bs : List β} (h : l.mapM f = .ok bs) :
    ∀ a ∈ l, ∃ b ∈ bs, f a = .ok b := by
  induction l generalizing bs with
  | nil => exact fun a ha => nomatch ha
  | cons a l ih =>
    rw [List.mapM_cons] at h
    obtain ⟨b, hb, h⟩ := bind_eq_ok h
    obtain ⟨cs, hcs, h⟩ := bind_eq_ok h
    cases h
    intro c hc
    rcases List.mem_cons.mp hc with rfl | hc
    · exact ⟨b, List.mem_cons_self .., hb⟩
    · obtain ⟨e, he, hf⟩ := ih hcs c hc
      exact ⟨e, List.mem_cons_of_mem b he, hf⟩

/-- What the results have in common with what they come from stands in the same order. -/
theorem map_of_mapM {f : α → Except ε β} {key : α → γ} {key' : β → γ} (hkey : ∀ a b, f a = .ok b → key' b = key a)
    {l : List α} {bs : List β} (h : l.mapM f = .ok bs) : bs.map key' = l.map key := by
  induction l generalizing bs with
  | nil =>
    cases h
    rfl
  | cons a l ih =>
    rw [List.mapM_cons] at h
    obtain ⟨b, hb, h⟩ := bind_eq_ok h
    obtain ⟨cs, hcs, h⟩ := bind_eq_ok h
    cases h
    rw [List.map_cons, List.map_cons, hkey a b hb, ih hcs]

/-- Parts that are done one after the other stand in the order of their results. -/
theorem forall₂_of_mapM {f : α → Except ε β} {l : List α} {bs : List β} (h : l.mapM f = .ok bs) :
    List.Forall₂ (fun a b => a ∈ l ∧ f a = .ok b) l bs := by
  induction l generalizing bs with
  | nil =>
    cases h
    exact .nil
  | cons a l ih =>
    rw [List.mapM_cons] at h
    obtain ⟨b, hb, h⟩ := bind_eq_ok h
    obtain ⟨cs, hcs, h⟩ := bind_eq_ok h
    cases h
    refine .cons ⟨List.mem_cons_self .., hb⟩ ((ih hcs).imp ?_)
    rintro c d ⟨hc, hd⟩
    exact ⟨List.mem_cons_of_mem a hc, hd⟩

theorem mapM_map (f : α → Except ε β) (g : β → γ) (l : List α) :
    l.mapM (fun a => (f a).map g) = (l.mapM f).map (List.map g) := by
  induction l with
  | nil => rfl
  | cons a l ih =>
    rw [List.mapM_cons, List.mapM_cons, ih]
    cases f a with
    | error e => rfl
    | ok b => cases l.mapM f <;> rfl

def fault? : Except ε α → Option ε
  | .ok _ => none
  | .error e => some e

theorem fault?_map (x : Except ε α) (f : α → β) : fault? (x.map f) = fault? x := by cases x <;> rfl

theorem fault?_eq_none {x : Except ε α} : fault? x = none ↔ ∃ a, x = .ok a := by
  cases x with
  | error e => exact ⟨fun h => (nomatch h), fun ⟨_, h⟩ => (nomatch h)⟩
  | ok a => exact ⟨fun _ => ⟨a, rfl⟩, fun _ => rfl⟩

theorem fault?_bind {x x' : Except ε α} {f f' : α → Except ε β} (hx : fault? x' = fault? x)
    (hf : ∀ a a', x = .ok a → x' = .ok a' → fault? (f' a') = fault? (f a)) : fault? (x' >>= f') = fault? (x >>= f) := by
  cases x with
  | error e =>
    cases x' with
    | error e' => exact hx
    | ok a' => cases hx
  | ok a =>
    cases x' with
    | error e' => cases hx
    | ok a' => exact hf a a' rfl rfl

/-- Parts done one after the other fail with the first fault among them. -/
theorem fault?_mapM (f : α → Except ε β) (l : List α) : fault? (l.mapM f) = l.findSome? fun a => fault? (f a) := by
  induction l with
  | nil => rfl
  | cons a l ih =>
    rw [List.mapM_cons, List.findSome?_cons, ← ih]
    cases f a with
    | error e => rfl
    | ok b => cases l.mapM f <;> rfl

/-! ## Lists side by side -/

section
variable {R : α → β → Prop} {l : List α} {m : List β}

theorem exists_of_forall₂ (h : List.Forall₂ R l m) : ∀ a ∈ l, ∃ b ∈ m, R a b := by
  induction h with
  | nil => exact fun a ha => nomatch ha
  | @cons a b l m hab _ ih =>
    intro c hc
    rcases List.mem_cons.mp hc with rfl | hc
    · exact ⟨b, List.mem_cons_self .., hab⟩
    · obtain ⟨d, hd, hcd⟩ := ih c hc
      exact ⟨d, List.mem_cons_of_mem b hd, hcd⟩

theorem exists_of_forall₂_right (h : List.Forall₂ R l m) : ∀ b ∈ m, ∃ a ∈ l, R a b := exists_of_forall₂ h.flip

theorem pairwise_of_forall₂ {S : α → α → Prop} {T : β → β → Prop} (h : List.Forall₂ R l m) (hl : l.Pairwise S)
    (hstep : ∀ a a' b b', R a b → R a' b' → S a a' → T b b') : m.Pairwise T := by
  induction h with
  | nil => exact .nil
  | @cons a b l m hab hrest ih =>
    obtain ⟨hhead, htail⟩ := List.pairwise_cons.mp hl
    refine .cons ?_ (ih htail)
    intro b' hb'
    obtain ⟨a', ha', hab'⟩ := exists_of_forall₂_right hrest b' hb'
    exact hstep a a' b b' hab hab' (hhead a' ha')

end

/-! ## Lists that are checked -/

/-- What can be decided of an element is checked of a list by evaluation. -/
theorem forall_of_all {p : α → Prop} [DecidablePred p] {l : List α} (h : (l.all fun a => decide (p a)) = true) :
    ∀ a ∈ l, p a := fun a ha => of_decide_eq_true (List.all_eq_true.mp h a ha)

/-! ## Looking up -/

section
variable {κ : Type} [BEq κ] [LawfulBEq κ] {l : List (κ × α)} {k : κ} {a : α}

theorem mem_of_lookup (h : l.lookup k = some a) : (k, a) ∈ l := by
  obtain ⟨before, after, hl, _⟩ := List.lookup_eq_some_iff.mp h
  rw [hl]
  exact List.mem_append_right before (List.mem_cons_self ..)

theorem exists_lookup (h : (k, a) ∈ l) : ∃ b, l.lookup k = some b :=
  Option.isSome_iff_exists.mp (List.lookup_isSome_iff.mpr ⟨(k, a), h, beq_self_eq_true k⟩)

theorem lookup_of_mem (hl : (l.map (·.1)).Nodup) (h : (k, a) ∈ l) : l.lookup k = some a := by
  obtain ⟨before, after, rfl⟩ := List.append_of_mem h
  refine List.lookup_eq_some_iff.mpr ⟨before, after, rfl, fun p hp => ?_⟩
  rw [List.map_append, List.nodup_append] at hl
  rw [bne_iff_ne]
  exact (hl.2.2 p.1 (List.mem_map_of_mem hp) k (List.mem_cons_self ..)).symm

theorem lookup_of_perm {m : List (κ × α)} (h : m.Perm l) (hl : (l.map (·.1)).Nodup) : m.lookup k = l.lookup k := by
  cases hk : l.lookup k with
  | none =>
    rw [List.lookup_eq_none_iff] at hk ⊢
    exact fun p hp => hk p (h.mem_iff.mp hp)
  | some a => exact lookup_of_mem ((h.map _).nodup_iff.mpr hl) (h.mem_iff.mpr (mem_of_lookup hk))

end

/-! ## Lists with the same keys -/

section
variable {κ : Type} {key : α → κ} {l m : List α}

theorem map_eq_map_iff {f g : α → β} (hl : (l.map key).Nodup) (h : m.map key = l.map key) :
    m.map g = l.map f ↔ ∀ a ∈ l, ∀ b ∈ m, key b = key a → g b = f a := by
  induction l generalizing m with
  | nil =>
    rw [List.map_nil, List.map_eq_nil_iff] at h
    simp [h]
  | cons a l ih =>
    cases m with
    | nil => cases h
    | cons b m =>
      rw [List.map_cons, List.nodup_cons] at hl
      rw [List.map_cons, List.map_cons, List.cons.injEq] at h
      rw [List.map_cons, List.map_cons, List.cons.injEq, ih hl.2 h.2]
      constructor
      · rintro ⟨hhead, htail⟩ c hc d hd hkey
        rcases List.mem_cons.mp hc with rfl | hc
        · rcases List.mem_cons.mp hd with rfl | hd
          · exact hhead
          · exact absurd (h.2 ▸ hkey ▸ List.mem_map_of_mem hd) hl.1
        · rcases List.mem_cons.mp hd with rfl | hd
          · exact absurd (h.1 ▸ hkey ▸ List.mem_map_of_mem hc) hl.1
          · exact htail c hc d hd hkey
      · intro hall
        exact ⟨hall a (List.mem_cons_self ..) b (List.mem_cons_self ..) h.1, fun c hc d hd =>
          hall c (List.mem_cons_of_mem a hc) d (List.mem_cons_of_mem b hd)⟩

theorem flatMap_of_key {f : α → List β} {a : α} (hl : (l.map key).Nodup) (ha : a ∈ l)
    (h : ∀ b ∈ l, key b ≠ key a → f b = []) : l.flatMap f = f a := by
  obtain ⟨before, after, rfl⟩ := List.append_of_mem ha
  rw [List.map_append, List.map_cons, List.nodup_append, List.nodup_cons] at hl
  have hbefore : before.flatMap f = [] := List.flatMap_eq_nil_iff.mpr fun b hb =>
    h b (List.mem_append_left _ hb) (hl.2.2 _ (List.mem_map_of_mem hb) _ (List.mem_cons_self ..))
  have hafter : after.flatMap f = [] := List.flatMap_eq_nil_iff.mpr fun b hb =>
    h b (List.mem_append_right _ (List.mem_cons_of_mem a hb)) fun e => hl.2.1.1 (e ▸ List.mem_map_of_mem hb)
  rw [List.flatMap_append, List.flatMap_cons, hbefore, hafter, List.append_nil, List.nil_append]

theorem filter_of_perm [DecidableEq κ] (h : m.Perm l) (hl : (l.map key).Nodup) (k : κ) :
    m.filter (key · = k) = l.filter (key · = k) := by
  have hany : ∀ l : List α, l.Pairwise fun _ _ => True := fun _ => List.pairwise_of_forall fun _ _ => trivial
  refine (h.filter _).eq_of_pairwise (fun a b ha hb _ _ => ?_) (hany _) (hany _)
  obtain ⟨ha, hka⟩ := List.mem_filter.mp ha
  obtain ⟨hb, hkb⟩ := List.mem_filter.mp hb
  exact List.inj_on_of_nodup_map hl (h.mem_iff.mp ha) hb ((of_decide_eq_true hka).trans (of_decide_eq_true hkb).symm)

end

/-! ## The first entries -/

theorem take_cons_take (n : Nat) (a : α) (l : List α) : (a :: l.take n).take n = (a :: l).take n := by
  cases n with
  | zero => rfl
  | succ n => rw [List.take_succ_cons, List.take_succ_cons, List.take_take, Nat.min_eq_left (Nat.le_succ n)]

/-! ## Filtering -/

theorem flatMap_filter_eq {p : α → Bool} {f g : α → List β} : ∀ {l : List α}, (∀ a ∈ l, p a = true → f a = g a) →
    (∀ a ∈ l, p a = false → g a = []) → (l.filter p).flatMap f = l.flatMap g
  | [], _, _ => rfl
  | a :: l, h₁, h₂ => by
    have ih := flatMap_filter_eq (fun b hb => h₁ b (List.mem_cons_of_mem a hb))
      (fun b hb => h₂ b (List.mem_cons_of_mem a hb))
    rw [List.filter_cons, List.flatMap_cons]
    cases hp : p a with
    | true => rw [if_pos rfl, List.flatMap_cons, h₁ a (List.mem_cons_self ..) hp, ih]
    | false => rw [if_neg Bool.false_ne_true, h₂ a (List.mem_cons_self ..) hp, ih, List.nil_append]

theorem eraseDups_of_nodup [BEq α] [LawfulBEq α] : ∀ {l : List α}, l.Nodup → l.eraseDups = l
  | [], _ => rfl
  | a :: l, h => by
    rw [List.nodup_cons] at h
    rw [List.eraseDups_cons, List.filter_eq_self.mpr, eraseDups_of_nodup h.2]
    intro b hb
    have hne : b ≠ a := fun e => h.1 (e ▸ hb)
    simp [hne]

theorem eraseDups_snoc [DecidableEq α] (l : List α) (a : α) :
    (l ++ [a]).eraseDups = if a ∈ l then l.eraseDups else l.eraseDups ++ [a] := by
  rw [List.eraseDups_append, List.removeAll]
  by_cases ha : a ∈ l
  · rw [if_pos ha, List.filter_cons_of_neg (by simpa using ha), List.filter_nil, List.eraseDups_nil, List.append_nil]
  · rw [if_neg ha, List.filter_cons_of_pos (by simpa using ha), List.filter_nil,
      eraseDups_of_nodup (List.nodup_singleton a)]

theorem nodup_eraseDups [DecidableEq α] (l : List α) : l.eraseDups.Nodup := by
  induction l using List.reverseRecOn with
  | nil => exact List.nodup_nil
  | append_singleton l a ih =>
    rw [eraseDups_snoc]
    by_cases ha : a ∈ l
    · rwa [if_pos ha]
    · rw [if_neg ha, ← List.concat_eq_append]
      exact ih.concat fun h => ha (List.mem_eraseDups.mp h)

theorem eraseDups_filter [BEq α] [LawfulBEq α] (p : α → Bool) (l : List α) :
    (l.filter p).eraseDups = l.eraseDups.filter p := by
  -- What follows the first entry shrinks by all its copies.
  induction hn : l.length using Nat.strongRecOn generalizing l with
  | _ n ih =>
    cases l with
    | nil => rfl
    | cons a l =>
      have hlt : (l.filter fun b => !b == a).length < n := by
        rw [← hn, List.length_cons]
        exact Nat.lt_succ_of_le (List.length_filter_le ..)
      have hrest := ih _ hlt _ rfl
      rw [List.eraseDups_cons]
      by_cases hp : p a = true
      · rw [List.filter_cons_of_pos hp, List.filter_cons_of_pos hp, List.eraseDups_cons, List.filter_comm, hrest]
      · rw [List.filter_cons_of_neg hp, List.filter_cons_of_neg hp, ← hrest, List.filter_comm]
        congr 1
        refine (List.filter_eq_self.mpr fun b hb => ?_).symm
        have hne : b ≠ a := by
          rintro rfl
          exact hp (List.mem_filter.mp hb).2
        simp [hne]

section
variable {le : α → α → Bool} (htrans : ∀ a b c, le a b = true → le b c = true → le a c = true)
  (htotal : ∀ a b, (le a b || le b a) = true)

include htrans htotal

/-- Sorting puts the first entry before those that it is not greater than, and behind the others. -/
theorem mergeSort_cons_eq (a : α) (l : List α) :
    (a :: l).mergeSort le = (l.mergeSort le).filter (!le a ·) ++ a :: (l.mergeSort le).filter (le a ·) ∧
      l.mergeSort le = (l.mergeSort le).filter (!le a ·) ++ (l.mergeSort le).filter (le a ·) := by
  obtain ⟨before, after, hcons, hl, hbefore⟩ := List.mergeSort_cons htrans htotal a l
  have hafter : ∀ b ∈ after, le a b = true := by
    have hsorted := List.pairwise_mergeSort htrans htotal (a :: l)
    rw [hcons, List.pairwise_append, List.pairwise_cons] at hsorted
    exact hsorted.2.1.1
  have hnot : ∀ b ∈ before, ¬ le a b = true := fun b hb => by simpa using hbefore b hb
  have hfirst : (l.mergeSort le).filter (!le a ·) = before := by
    rw [hl, List.filter_append, List.filter_eq_self.mpr hbefore, List.filter_eq_nil_iff.mpr, List.append_nil]
    intro b hb
    simp [hafter b hb]
  have hsecond : (l.mergeSort le).filter (le a ·) = after := by
    rw [hl, List.filter_append, List.filter_eq_nil_iff.mpr hnot, List.filter_eq_self.mpr hafter, List.nil_append]
  rw [hfirst, hsecond]
  exact ⟨hcons, hl⟩

theorem mergeSort_filter (p : α → Bool) (l : List α) : (l.filter p).mergeSort le = (l.mergeSort le).filter p := by
  induction l with
  | nil => rw [List.filter_nil, List.mergeSort_nil, List.filter_nil]
  | cons a l ih =>
    obtain ⟨hcons, hl⟩ := mergeSort_cons_eq htrans htotal a l
    by_cases hp : p a = true
    · rw [List.filter_cons_of_pos hp, (mergeSort_cons_eq htrans htotal a _).1, ih, hcons, List.filter_append,
        List.filter_cons_of_pos hp, List.filter_comm, List.filter_comm (p := (le a ·))]
    · rw [List.filter_cons_of_neg hp, ih, hcons, List.filter_append, List.filter_cons_of_neg hp, ← List.filter_append,
        ← hl]

section
variable {κ : Type} [DecidableEq κ] {key : α → κ} (hkey : ∀ a b, le a b = true → le b a = true → key a = key b)
  (hle : ∀ a b, key a = key b → le a b = true)

include hkey

omit htrans htotal in
/-- A sorted list is told by what it has under each key, in order. -/
theorem eq_of_filter_eq {l m : List α} (hl : l.Pairwise (le · ·)) (hm : m.Pairwise (le · ·))
    (h : ∀ k, l.filter (key · = k) = m.filter (key · = k)) : l = m := by
  have hmem : ∀ a : α, a ∈ l ↔ a ∈ m := by
    intro a
    have ha := congrArg (a ∈ ·) (h (key a))
    simpa using ha
  induction l generalizing m with
  | nil =>
    cases m with
    | nil => rfl
    | cons b m => cases (hmem b).mpr (List.mem_cons_self ..)
  | cons a l ih =>
    cases m with
    | nil => cases (hmem a).mp (List.mem_cons_self ..)
    | cons b m =>
      rw [List.pairwise_cons] at hl hm
      -- Each head stands before the other one, so both have one key.
      have hheads : key a = key b := by
        rcases List.mem_cons.mp ((hmem a).mp (List.mem_cons_self ..)) with rfl | ha
        · rfl
        · rcases List.mem_cons.mp ((hmem b).mpr (List.mem_cons_self ..)) with rfl | hb
          · rfl
          · exact hkey a b (hl.1 b hb) (hm.1 a ha)
      have hhead := h (key a)
      rw [List.filter_cons_of_pos (by simp), List.filter_cons_of_pos (by simp [hheads]), List.cons.injEq] at hhead
      obtain ⟨rfl, htail⟩ := hhead
      have htails : ∀ k, l.filter (key · = k) = m.filter (key · = k) := by
        intro k
        by_cases hk : key a = k
        · exact hk ▸ htail
        · have := h k
          rwa [List.filter_cons_of_neg (by simp [hk]), List.filter_cons_of_neg (by simp [hk])] at this
      rw [ih hl.2 hm.2 htails fun c => by simpa using congrArg (c ∈ ·) (htails (key c))]

include hle

/-- Sorting forgets all of an order but how entries stand that share their key. -/
theorem mergeSort_eq_iff (l m : List α) :
    l.mergeSort le = m.mergeSort le ↔ ∀ k, l.filter (key · = k) = m.filter (key · = k) := by
  have hfilter : ∀ (l : List α) (k : κ), (l.mergeSort le).filter (key · = k) = l.filter (key · = k) := by
    intro l k
    rw [← mergeSort_filter htrans htotal]
    refine List.mergeSort_of_pairwise (List.Pairwise.imp_of_mem (R := fun _ _ => True) (fun {a b} ha hb _ => ?_)
      (List.pairwise_of_forall fun _ _ => trivial))
    have ha := of_decide_eq_true (List.mem_filter.mp ha).2
    have hb := of_decide_eq_true (List.mem_filter.mp hb).2
    exact hle a b (ha.trans hb.symm)
  constructor
  · intro h k
    rw [← hfilter l, ← hfilter m, h]
  · intro h
    refine eq_of_filter_eq hkey (List.pairwise_mergeSort htrans htotal l) (List.pairwise_mergeSort htrans htotal m) ?_
    intro k
    rw [hfilter, hfilter, h]

end

end

end SchemaConcord
