import SchemaConcord.Proofs.Text.Digits
import SchemaConcord.Text.Case
import SchemaConcord.Text.Edit

/-!
# Texts in small letters

A text and the same text with its ASCII letters made small are read alike: the classes of characters, the comparison of
letters and lowercasing see no difference, and cutting a text leaves small letters small.
-/

namespace SchemaConcord.Text

/-! ## Characters -/

def capitals : List Char := "ABCDEFGHIJKLMNOPQRSTUVWXYZ".toList

theorem mem_capitals {c : Char} (h : isAsciiUpper c = true) : c ∈ capitals := by
  have hcode := isAsciiUpper_iff.mp h
  have hall : ∀ n < 26, Char.ofNat (65 + n) ∈ capitals := by decide
  have hmem := hall (c.toNat - 65) (by omega)
  rwa [Nat.add_sub_cancel' hcode.1, Char.ofNat_toNat] at hmem

/-- What does not tell the capitals from their small letters sees no difference anywhere. -/
theorem asciiLower_invariant {α : Type} [DecidableEq α] {f : Char → α}
    (h : (capitals.all fun c => decide (f (asciiLower c) = f c)) = true) (c : Char) : f (asciiLower c) = f c := by
  by_cases hupper : isAsciiUpper c = true
  · exact forall_of_all h c (mem_capitals hupper)
  · rw [asciiLower, if_neg hupper]

theorem isWord_asciiLower (c : Char) : isWord (asciiLower c) = isWord c :=
  asciiLower_invariant (by decide) c

theorem isAscii_asciiLower (c : Char) : isAscii (asciiLower c) = isAscii c :=
  asciiLower_invariant (by decide) c

theorem isBlank_asciiLower (c : Char) : isBlank (asciiLower c) = isBlank c :=
  asciiLower_invariant (by decide) c

theorem isCased_asciiLower (c : Char) : isCased (asciiLower c) = isCased c :=
  asciiLower_invariant (by decide) c

theorem isCaseIgnorable_asciiLower (c : Char) : isCaseIgnorable (asciiLower c) = isCaseIgnorable c :=
  asciiLower_invariant (by decide) c

theorem lowerChar_asciiLower (c : Char) : lowerChar (asciiLower c) = lowerChar c :=
  asciiLower_invariant (by decide) c

theorem sameLetter_asciiLower (w c : Char) : sameLetter w (asciiLower c) = sameLetter w c := by
  simp only [sameLetter, lowerChar_asciiLower]

theorem asciiLower_eq_iff {c d : Char} (hd : isAsciiLetter d = false) : asciiLower c = d ↔ c = d := by
  have hletter : isAsciiLetter (asciiLower c) = isAsciiLetter c := asciiLower_invariant (by decide) c
  by_cases hupper : isAsciiUpper c = true
  · -- Neither the capital nor its small letter is a mark.
    have hc : isAsciiLetter c = true := by rw [isAsciiLetter, hupper, Bool.true_or]
    refine iff_of_false ?_ ?_
    · rintro rfl
      cases hd.symm.trans (hletter.trans hc)
    · rintro rfl
      cases hd.symm.trans hc
  · rw [asciiLower, if_neg hupper]

theorem asciiLower_beq {d : Char} (hd : isAsciiLetter d = false) (c : Char) : (asciiLower c == d) = (c == d) := by
  rw [Bool.eq_iff_iff, beq_iff_eq, beq_iff_eq, asciiLower_eq_iff hd]

/-! ## Texts -/

def small (cs : List Char) : List Char := cs.map asciiLower

@[simp]
theorem small_nil : small [] = [] := rfl

@[simp]
theorem small_cons (c : Char) (cs : List Char) : small (c :: cs) = asciiLower c :: small cs := rfl

@[simp]
theorem length_small (cs : List Char) : (small cs).length = cs.length := List.length_map _

theorem isEmpty_small (cs : List Char) : (small cs).isEmpty = cs.isEmpty := List.isEmpty_map

/-- A text that begins with a mark still does with its letters small, and none comes to do so. -/
theorem head?_small_eq_some {d : Char} (hd : isAsciiLetter d = false) (cs : List Char) :
    (small cs).head? = some d ↔ cs.head? = some d := by
  cases cs with
  | nil => exact Iff.rfl
  | cons c cs => simp [asciiLower_eq_iff hd]

theorem small_beq_nil (cs : List Char) : (small cs == []) = (cs == []) := by
  cases cs <;> rfl

theorem small_beq_mark {d : Char} (hd : isAsciiLetter d = false) (cs : List Char) :
    (small cs == [d]) = (cs == [d]) := by
  rw [Bool.eq_iff_iff, beq_iff_eq, beq_iff_eq]
  cases cs with
  | nil => exact Iff.rfl
  | cons c cs => simp [asciiLower_eq_iff hd, small]

section
variable {p : Char → Bool} (h : ∀ c, p (asciiLower c) = p c) (cs : List Char)
include h

theorem takeWhile_small : (small cs).takeWhile p = small (cs.takeWhile p) := by
  have hp : p ∘ asciiLower = p := funext h
  rw [small, List.takeWhile_map, hp, small]

theorem dropWhile_small : (small cs).dropWhile p = small (cs.dropWhile p) := by
  have hp : p ∘ asciiLower = p := funext h
  rw [small, List.dropWhile_map, hp, small]

theorem filter_small : (small cs).filter p = small (cs.filter p) := by
  have hp : p ∘ asciiLower = p := funext h
  rw [small, List.filter_map, hp, small]

theorem all_small : (small cs).all p = cs.all p := by
  have hp : p ∘ asciiLower = p := funext h
  rw [small, List.all_map, hp]

theorem head?_map_small : ((small cs).head?.map p).getD false = (cs.head?.map p).getD false := by
  cases cs with
  | nil => rfl
  | cons c cs => exact h c

theorem splitAt_small : splitAt p (small cs) = (splitAt p cs).map small := by
  induction cs with
  | nil => rfl
  | cons c cs ih =>
    rw [small_cons, splitAt, splitAt, h c, ih]
    split
    · rfl
    · cases splitAt p cs <;> rfl

theorem trim_small : trim p (small cs) = small (trim p cs) := by
  rw [trim, trimLeft, dropWhile_small h, trimRight]
  have hreverse := dropWhile_small h (cs.dropWhile p).reverse
  rw [small, List.map_reverse] at hreverse
  rw [small, hreverse, small, ← List.map_reverse]
  rfl

end

theorem startsCased_small (cs : List Char) : startsCased (small cs) = startsCased cs := by
  rw [startsCased, dropWhile_small isCaseIgnorable_asciiLower, head?_map_small isCased_asciiLower, startsCased]

/-- Lowercasing takes two characters apart from the others: the capital sigma, by what stands around it, and the capital
i with a dot. -/
theorem forall_lower {p : Char → Prop} {cs : List Char} (hspecial : ∀ c ∈ ['ς', 'σ', 'i', '\u0307'], p c)
    (h : ∀ c ∈ cs, c.toNat ≠ 931 → c.toNat ≠ 304 → p (lowerChar c)) : ∀ c ∈ lower cs, p c := by
  have hrun : ∀ before, ∀ c ∈ lowerFrom before cs, p c := by
    induction cs with
    | nil => exact fun _ c hc => nomatch hc
    | cons d cs ih =>
      intro before
      rw [lowerFrom]
      refine List.forall_mem_append.mpr ⟨?_, ih (fun c hc => h c (List.mem_cons_of_mem d hc)) _⟩
      intro c hc
      split at hc
      · refine hspecial c ?_
        split at hc <;> obtain rfl := List.mem_singleton.mp hc <;> decide
      · next hsigma =>
        split at hc
        · exact hspecial c (List.mem_append_right ['ς', 'σ'] hc)
        · next hdotted =>
          obtain rfl := List.mem_singleton.mp hc
          exact h d (List.mem_cons_self ..) (by simpa using hsigma) (by simpa using hdotted)
  exact hrun []

theorem lower_eq_map {f : Char → Char} {cs : List Char}
    (h : ∀ c ∈ cs, lowerChar c = f c ∧ c.toNat ≠ 931 ∧ c.toNat ≠ 304) : lower cs = cs.map f := by
  have hrun : ∀ before, lowerFrom before cs = cs.map f := by
    induction cs with
    | nil => exact fun _ => rfl
    | cons c cs ih =>
      intro before
      obtain ⟨hc, hsigma, hdotted⟩ := h c (List.mem_cons_self ..)
      rw [lowerFrom, ih fun d hd => h d (List.mem_cons_of_mem c hd)]
      simp [hc, hsigma, hdotted]
  exact hrun []

theorem lower_of_ascii {cs : List Char} (h : ∀ c ∈ cs, isAscii c = true) : lower cs = cs.map asciiLower := by
  refine lower_eq_map fun c hc => ?_
  have hcode : c.toNat < 128 := of_decide_eq_true (h c hc)
  exact ⟨by rw [lowerChar, if_pos (h c hc)], by omega, by omega⟩

/-- Lowercasing makes nothing of capitals that are small already. -/
theorem lower_small (cs : List Char) : lower (small cs) = lower cs := by
  have hsigma := asciiLower_invariant (f := fun c => c.toNat == 931) (by decide)
  have hdotted := asciiLower_invariant (f := fun c => c.toNat == 304) (by decide)
  have hrun : ∀ before, lowerFrom (small before) (small cs) = lowerFrom before cs := by
    induction cs with
    | nil => exact fun _ => rfl
    | cons c cs ih =>
      intro before
      have hrest := ih (c :: before)
      rw [small_cons] at hrest
      rw [small_cons, lowerFrom, lowerFrom, hsigma, hdotted, lowerChar_asciiLower, startsCased_small,
        startsCased_small, hrest]
  exact hrun []

end SchemaConcord.Text
