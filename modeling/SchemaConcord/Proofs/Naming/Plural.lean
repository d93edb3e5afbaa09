import SchemaConcord.Form.Match
import SchemaConcord.Proofs.Naming.Spelling
import SchemaConcord.Proofs.Text.Digits
import SchemaConcord.Route.Project

/-!
# Plural and singular

A table that is named in the singular is found by the plural of its name when the singular of that plural is the name
again, which is so but for a few endings (`Naming.singularize_pluralize`). A table that is named in the plural is always
found by the singular. Routes and forms agree in both (`Snapshot.found_by_number`). A plural is its own plural, but for
two endings, so that a table named in the plural has a resource of its own name (`Table.named_in_plural`).
-/

namespace SchemaConcord

namespace Text

/-! ## Small letters -/

/-- A letter or digit, of any script, that lowercasing keeps. -/
def SmallLetter (c : Char) : Prop := isAlphanumeric c = true ∧ Small c

instance (c : Char) : Decidable (SmallLetter c) := inferInstanceAs (Decidable (_ ∧ _ ∧ _ ∧ _))

theorem smallLetters_of_all {s : String} (h : s.toList.all (fun c => decide (SmallLetter c)) = true) :
    ∀ c ∈ s.toList, SmallLetter c := fun c hc => of_decide_eq_true (List.all_eq_true.mp h c hc)

/-- A small letter or digit of ASCII. -/
def isSmallAscii (c : Char) : Bool := isAsciiLower c || isAsciiDigit c

theorem isSmallAscii_iff {c : Char} :
    isSmallAscii c = true ↔ 97 ≤ c.toNat ∧ c.toNat ≤ 122 ∨ 48 ≤ c.toNat ∧ c.toNat ≤ 57 := by
  rw [isSmallAscii, Bool.or_eq_true, isAsciiLower_iff, isAsciiDigit_iff]

theorem isAscii_of_smallAscii {c : Char} (h : isSmallAscii c = true) : isAscii c = true := by
  have hcode := isSmallAscii_iff.mp h
  exact decide_eq_true (by omega)

theorem not_isAsciiUpper_of_smallAscii {c : Char} (h : isSmallAscii c = true) : isAsciiUpper c = false := by
  rw [Bool.eq_false_iff]
  intro hupper
  have hcode := isSmallAscii_iff.mp h
  have := isAsciiUpper_iff.mp hupper
  omega

theorem smallLetter_of_ascii {c : Char} (h : isSmallAscii c = true) : SmallLetter c := by
  have hascii := isAscii_of_smallAscii h
  refine ⟨?_, small_of_ascii hascii (not_isAsciiUpper_of_smallAscii h)⟩
  rw [isAlphanumeric, if_pos hascii, isAsciiLetter, Bool.or_assoc]
  exact Bool.or_eq_true_iff.mpr (.inr h)

theorem smallLetters_of_ascii {s : String} (h : s.toList.all isSmallAscii = true) : ∀ c ∈ s.toList, SmallLetter c :=
  fun c hc => smallLetter_of_ascii (List.all_eq_true.mp h c hc)

/-- Codes of letters and digits. -/
def letterRanges : List (Nat × Nat) := (48, 57) :: (65, 90) :: (97, 122) :: alphanumericRanges.toList

/-- Codes of the blanks and marks that stand between words. -/
def separatorRanges : List (Nat × Nat) :=
  [(45, 45), (95, 95), (9, 13), (28, 32), (133, 133), (160, 160), (5760, 5760), (8192, 8202), (8232, 8232),
    (8233, 8233), (8239, 8239), (8287, 8287), (12288, 12288)]

theorem letterRanges_apart : ∀ r ∈ letterRanges, ∀ b ∈ separatorRanges, r.2 < b.1 ∨ b.2 < r.1 := by
  decide +kernel

theorem letterRange_of_isAlphanumeric {c : Char} (h : isAlphanumeric c = true) :
    ∃ r ∈ letterRanges, r.1 ≤ c.toNat ∧ c.toNat ≤ r.2 := by
  unfold isAlphanumeric at h
  split at h
  · rw [isAsciiLetter, Bool.or_eq_true, Bool.or_eq_true, isAsciiUpper_iff, isAsciiLower_iff, isAsciiDigit_iff] at h
    rcases h with (h | h) | h
    · exact ⟨(65, 90), by simp [letterRanges], h⟩
    · exact ⟨(97, 122), by simp [letterRanges], h⟩
    · exact ⟨(48, 57), by simp [letterRanges], h⟩
  · obtain ⟨r, hr, hn⟩ := inRanges_iff.mp h
    exact ⟨r, by simp [letterRanges, hr], hn⟩

theorem separatorRange_of_isBlank {c : Char} (h : isBlank c = true) :
    ∃ b ∈ separatorRanges, b.1 ≤ c.toNat ∧ c.toNat ≤ b.2 := by
  have hsole : ∀ {k : Nat}, c.toNat = k → (k, k) ∈ separatorRanges →
      ∃ b ∈ separatorRanges, b.1 ≤ c.toNat ∧ c.toNat ≤ b.2 :=
    fun hk hmem => ⟨_, hmem, Nat.le_of_eq hk.symm, Nat.le_of_eq hk⟩
  unfold isBlank at h
  simp only [Bool.or_eq_true, Bool.and_eq_true, decide_eq_true_eq, beq_iff_eq] at h
  rcases h with (((((((((h | h) | h) | h) | h) | h) | h) | h) | h) | h) | h
  · exact ⟨(9, 13), by decide, h⟩
  · exact ⟨(28, 32), by decide, h⟩
  · exact hsole h (by decide)
  · exact hsole h (by decide)
  · exact hsole h (by decide)
  · exact ⟨(8192, 8202), by decide, h⟩
  all_goals exact hsole h (by decide)

theorem isAlphanumeric_apart {c : Char} (h : isAlphanumeric c = true) : Naming.isSeparator c = false ∧ c ≠ '_' := by
  obtain ⟨r, hr, hlow, hhigh⟩ := letterRange_of_isAlphanumeric h
  have hapart : ¬ ∃ b ∈ separatorRanges, b.1 ≤ c.toNat ∧ c.toNat ≤ b.2 := by
    rintro ⟨b, hb, hinside⟩
    have := letterRanges_apart r hr b hb
    omega
  refine ⟨?_, ?_⟩
  · rw [Naming.isSeparator, Bool.or_eq_false_iff]
    refine ⟨beq_false_of_ne ?_, Bool.eq_false_iff.mpr fun hblank => hapart (separatorRange_of_isBlank hblank)⟩
    rintro rfl
    exact hapart ⟨(45, 45), by decide, by decide, by decide⟩
  · rintro rfl
    exact hapart ⟨(95, 95), by decide, by decide, by decide⟩

theorem not_isAsciiUpper_of_small {c : Char} (h : Small c) : isAsciiUpper c = false := by
  rw [Bool.eq_false_iff]
  intro hupper
  have hcode := isAsciiUpper_iff.mp hupper
  have hascii : isAscii c = true := decide_eq_true (by omega)
  have hlower := h.1
  rw [lowerChar, if_pos hascii, asciiLower, if_pos hupper] at hlower
  have hshift : (Char.ofNat (c.toNat + 32)).toNat = c.toNat + 32 := toNat_ofNat (.inl (by omega))
  rw [hlower] at hshift
  omega

end Text

namespace Naming

open Text

/-! ## Words of small letters -/

theorem markAcronyms_of_small {cs : List Char} (h : ∀ c ∈ cs, isAsciiUpper c = false) :
    ∀ inRun, markAcronyms inRun cs = cs := by
  induction cs with
  | nil => exact fun _ => rfl
  | cons c cs ih =>
    intro inRun
    rw [markAcronyms, h c (List.mem_cons_self ..), ih fun d hd => h d (List.mem_cons_of_mem c hd)]
    simp

theorem markHumps_of_small {cs : List Char} (h : ∀ c ∈ cs, isAsciiUpper c = false) :
    ∀ afterSmall, markHumps afterSmall cs = cs := by
  induction cs with
  | nil => exact fun _ => rfl
  | cons c cs ih =>
    intro afterSmall
    rw [markHumps, h c (List.mem_cons_self ..), ih fun d hd => h d (List.mem_cons_of_mem c hd)]
    simp

section
variable {w : String} (h : ∀ c ∈ w.toList, SmallLetter c)

include h

theorem lowercase_of_small : lowercase w = w := by
  rw [lowercase, lower_of_small fun c hc => (h c hc).2, String.ofList_toList]

theorem snakeCase_of_small : snakeCase w = w := by
  have hupper : ∀ c ∈ w.toList, isAsciiUpper c = false := fun c hc => not_isAsciiUpper_of_small (h c hc).2
  have hseparator : ∀ c ∈ w.toList, isSeparator c = false := fun c hc => (isAlphanumeric_apart (h c hc).1).1
  have hblank : ∀ c ∈ w.toList, isBlank c = false := fun c hc => (Bool.or_eq_false_iff.mp (hseparator c hc)).2
  rw [snakeCase, onChars, trim_of_free hblank, markAcronyms_of_small hupper, markHumps_of_small hupper,
    squeeze_of_free hseparator, lower_of_small fun c hc => (h c hc).2, String.ofList_toList]

theorem small_pluralize : ∀ c ∈ (pluralize w).toList, SmallLetter c :=
  forall_pluralize (smallLetter_of_ascii rfl) (smallLetter_of_ascii rfl) (smallLetter_of_ascii rfl) h

theorem small_singularize : ∀ c ∈ (singularize w).toList, SmallLetter c :=
  forall_singularize (smallLetter_of_ascii rfl) h

end

/-! ## Singulars -/

section
variable {w : String} (h : ∀ c ∈ w.toList, SmallLetter c)

include h

theorem singularize_snoc : singularize (w ++ "s") =
    if hasTail w "ie" && 2 < w.length then dropLast 2 w ++ "y"
    else if hasTailIn w ["sse", "use", "xe", "ze", "che", "she"] then dropLast 1 w
    else if hasTailIn w ["s", "u", "i"] then w ++ "s"
    else w := by
  have hsmall : ∀ c ∈ (w ++ "s").toList, SmallLetter c := forall_append h (smallLetters_of_ascii rfl)
  have hies : hasTail (w ++ "s") "ies" = hasTail w "ie" := hasTail_append w "ie" "s"
  have hes : hasTailIn (w ++ "s") ["sses", "uses", "xes", "zes", "ches", "shes"] =
      hasTailIn w ["sse", "use", "xe", "ze", "che", "she"] :=
    hasTailIn_append w "s" ["sse", "use", "xe", "ze", "che", "she"]
  have hkept : hasTailIn (w ++ "s") ["ss", "us", "is"] = hasTailIn w ["s", "u", "i"] :=
    hasTailIn_append w "s" ["s", "u", "i"]
  have hlength : decide (3 < (w ++ "s").length) = decide (2 < w.length) := by
    rw [String.length_append, decide_eq_decide]
    exact Nat.succ_lt_succ_iff
  have hdrop : ∀ n, dropLast (n + 1) (w ++ "s") = dropLast n w := fun n => dropLast_append n w "s"
  have hwhole : dropLast 1 (w ++ "s") = w := dropLast_length w "s"
  have hend : hasTail (w ++ "s") "s" = true := hasTail_iff.mpr ⟨w, rfl⟩
  unfold singularize
  rw [lowercase_of_small hsmall]
  dsimp only
  rw [hies, hes, hkept, hlength, hend, hdrop 2, hdrop 1, hwhole]
  cases hasTailIn w ["s", "u", "i"] <;> rfl

theorem singularize_es (hend : hasTailIn w ["x", "z", "ch", "sh"] = true) : singularize (w ++ "es") = w := by
  have hsmall : ∀ c ∈ (w ++ "es").toList, SmallLetter c := forall_append h (smallLetters_of_ascii rfl)
  have hies : hasTail (w ++ "es") "ies" = hasTail w "i" := hasTail_append w "i" "es"
  have hes : hasTailIn (w ++ "es") ["sses", "uses", "xes", "zes", "ches", "shes"] =
      hasTailIn w ["ss", "us", "x", "z", "ch", "sh"] :=
    hasTailIn_append w "es" ["ss", "us", "x", "z", "ch", "sh"]
  have hi : hasTail w "i" = false := by
    rw [Bool.eq_false_iff]
    intro hi
    obtain ⟨c, hc, hlast⟩ : ∃ c ∈ ['x', 'z', 'h'], w.toList.getLast? = some c :=
      getLast?_of_hasTailIn hend (by decide)
    rw [getLast?_of_hasTail (c := 'i') hi rfl] at hlast
    cases hlast
    exact absurd hc (by decide)
  have hany : hasTailIn w ["ss", "us", "x", "z", "ch", "sh"] = true := by
    obtain ⟨tail, hmem, htail⟩ := hasTailIn_iff.mp hend
    exact hasTailIn_iff.mpr ⟨tail, List.mem_cons_of_mem _ (List.mem_cons_of_mem _ hmem), htail⟩
  unfold singularize
  rw [lowercase_of_small hsmall]
  dsimp only
  rw [hies, hes, hi, hany]
  exact dropLast_length w "es"

theorem singularize_ies (hne : w ≠ "") : singularize (w ++ "ies") = w ++ "y" := by
  have hsmall : ∀ c ∈ (w ++ "ies").toList, SmallLetter c := forall_append h (smallLetters_of_ascii rfl)
  have hies : hasTail (w ++ "ies") "ies" = true := hasTail_iff.mpr ⟨w, rfl⟩
  have hlength : decide (3 < (w ++ "ies").length) = true := by
    have hpos : w.length ≠ 0 := fun hzero => hne (String.length_eq_zero_iff.mp hzero)
    have hies : "ies".length = 3 := rfl
    rw [String.length_append]
    exact decide_eq_true (by omega)
  have hdrop : dropLast 3 (w ++ "ies") = w := dropLast_length w "ies"
  unfold singularize
  rw [lowercase_of_small hsmall]
  dsimp only
  rw [hies, hlength, hdrop]
  rfl

end

/-! ## Plurals -/

/-- A word whose plural is read as that of another word, as `axes` is, or as a singular, as `menus` is. -/
def isMisread (w : String) : Bool :=
  (hasTail w "ie" && 2 < w.length) || hasTailIn w ["sse", "use", "xe", "ze", "che", "she", "u", "i"]

theorem getLast?_of_misread {w : String} (h : isMisread w = true) :
    ∃ c ∈ ['e', 'u', 'i'], w.toList.getLast? = some c := by
  have hend : hasTailIn w ["ie", "sse", "use", "xe", "ze", "che", "she", "u", "i"] = true := by
    rw [hasTailIn, List.any_cons, Bool.or_eq_true]
    exact (Bool.or_eq_true_iff.mp h).imp_left fun h => (Bool.and_eq_true_iff.mp h).1
  exact getLast?_of_hasTailIn hend (by decide)

/-- How the plural of a word that does not end in `s` comes about. -/
theorem pluralize_cases {w : String} (h : ∀ c ∈ w.toList, SmallLetter c) (hs : hasTail w "s" = false) (hne : w ≠ "") :
    (∃ stem, stem ≠ "" ∧ w = stem ++ "y" ∧ pluralize w = stem ++ "ies") ∨
      (hasTailIn w ["x", "z", "ch", "sh"] = true ∧ pluralize w = w ++ "es") ∨ pluralize w = w ++ "s" := by
  have hempty : w.isEmpty = false := by rwa [Bool.eq_false_iff, Ne, String.isEmpty_iff]
  have hends : hasTailIn w ["ss", "us", "is", "x", "z", "ch", "sh"] = hasTailIn w ["x", "z", "ch", "sh"] := by
    have hnone : ∀ tail, hasTail tail "s" = true → hasTail w tail = false := by
      intro tail htail
      rw [Bool.eq_false_iff]
      intro hw
      rw [hasTail_trans hw htail] at hs
      cases hs
    simp only [hasTailIn, List.any_cons, hnone "ss" (by decide), hnone "us" (by decide), hnone "is" (by decide),
      Bool.false_or]
  unfold pluralize
  rw [lowercase_of_small h]
  dsimp only
  rw [hempty, hends, hs, if_neg Bool.false_ne_true]
  split
  · next hy =>
    rw [Bool.and_eq_true, Bool.and_eq_true] at hy
    obtain ⟨stem, rfl⟩ := hasTail_iff.mp hy.1.1
    have hdrop : dropLast 1 (stem ++ "y") = stem := dropLast_length stem "y"
    refine .inl ⟨stem, ?_, rfl, by rw [hdrop]⟩
    rintro rfl
    exact absurd hy.1.2 (by decide)
  · split
    · next hend => exact .inr (.inl ⟨hend, rfl⟩)
    · exact .inr (.inr rfl)

theorem pluralize_of_misread {w : String} (h : ∀ c ∈ w.toList, SmallLetter c) (hm : isMisread w = true) :
    pluralize w = w ++ "s" ∧ hasTail w "s" = false := by
  obtain ⟨c, hc, hlast⟩ := getLast?_of_misread hm
  have hother : ∀ (tail : String) (d : Char), tail.toList.getLast? = some d → d ∉ ['e', 'u', 'i'] →
      hasTail w tail = false := by
    intro tail d hd hnot
    rw [Bool.eq_false_iff]
    intro htail
    rw [getLast?_of_hasTail htail hd] at hlast
    cases hlast
    exact hnot hc
  have hs : hasTail w "s" = false := hother "s" 's' rfl (by decide)
  have hne : w ≠ "" := by
    rintro rfl
    cases hlast
  refine ⟨?_, hs⟩
  rcases pluralize_cases h hs hne with ⟨stem, -, rfl, -⟩ | ⟨hend, -⟩ | hplural
  · have hy := hother "y" 'y' rfl (by decide)
    rw [hasTail_iff.mpr ⟨stem, rfl⟩] at hy
    cases hy
  · rw [hasTailIn, List.any_cons, List.any_cons, List.any_cons, List.any_cons,
      hother "x" 'x' rfl (by decide), hother "z" 'z' rfl (by decide),
      hother "ch" 'h' rfl (by decide), hother "sh" 'h' rfl (by decide)] at hend
    cases hend
  · exact hplural

/-! ## Plurals of plurals -/

/-- An `s` that is put to a word makes a plural that is kept, except after `s`, `u` and `i`. -/
theorem pluralize_snoc (w : String) :
    pluralize (w ++ "s") = if hasTailIn (lowercase w) ["s", "u", "i"] then w ++ "s" ++ "es" else w ++ "s" := by
  have hs : hasTail (lowercase (w ++ "s")) "s" = true := hasTail_lowercase_self w (by decide) (by decide)
  have hkept : hasTailIn (lowercase (w ++ "s")) ["ss", "us", "is"] = hasTailIn (lowercase w) ["s", "u", "i"] :=
    hasTailIn_lowercase_append w ["s", "u", "i"] (by decide) (by decide)
  have hother : ∀ (other : String) (d : Char), other.toList.getLast? = some d → d ≠ 's' →
      hasTail (lowercase (w ++ "s")) other = false := fun other d hd hne => hasTail_of_other hs rfl other hd hne
  have hall : hasTailIn (lowercase (w ++ "s")) ["ss", "us", "is", "x", "z", "ch", "sh"] =
      hasTailIn (lowercase w) ["s", "u", "i"] := by
    rw [← hkept]
    simp only [hasTailIn, List.any_cons, List.any_nil, hother "x" 'x' rfl (by decide), hother "z" 'z' rfl (by decide),
      hother "ch" 'h' rfl (by decide), hother "sh" 'h' rfl (by decide), Bool.or_false]
  have hempty : (w ++ "s").isEmpty = false := by
    rw [Bool.eq_false_iff, Ne, String.isEmpty_iff]
    intro hnil
    rw [hnil] at hs
    exact absurd hs (by decide)
  unfold pluralize
  dsimp only
  rw [hempty, hall, hs, hother "y" 'y' rfl (by decide), Bool.false_and, Bool.false_and, if_neg Bool.false_ne_true,
    if_neg Bool.false_ne_true, if_pos rfl]

theorem pluralize_es (w : String) : pluralize (w ++ "es") = w ++ "es" := by
  have he : hasTail (lowercase (w ++ "e")) "e" = true := hasTail_lowercase_self w (by decide) (by decide)
  have hends : hasTailIn (lowercase (w ++ "e")) ["s", "u", "i"] = false := by
    simp only [hasTailIn, List.any_cons, List.any_nil, hasTail_of_other he rfl "s" rfl (by decide),
      hasTail_of_other he rfl "u" rfl (by decide), hasTail_of_other he rfl "i" rfl (by decide), Bool.or_false]
  have hsplit : w ++ "es" = w ++ "e" ++ "s" := by
    rw [String.append_assoc]
    rfl
  rw [hsplit, pluralize_snoc, hends, if_neg Bool.false_ne_true]

theorem pluralize_ies (w : String) : pluralize (w ++ "ies") = w ++ "ies" := by
  have hsplit : w ++ "ies" = w ++ "i" ++ "es" := by
    rw [String.append_assoc]
    rfl
  rw [hsplit, pluralize_es]

/-- How the plural of any word comes about. -/
theorem pluralize_eq (w : String) :
    w = "" ∧ pluralize w = w ∨
      hasTail (lowercase w) "y" = true ∧ pluralize w = dropLast 1 w ++ "ies" ∨
      hasTailIn (lowercase w) ["ss", "us", "is", "x", "z", "ch", "sh"] = true ∧ pluralize w = w ++ "es" ∨
      hasTail (lowercase w) "s" = true ∧ pluralize w = w ∨
      hasTail (lowercase w) "s" = false ∧ pluralize w = w ++ "s" := by
  unfold pluralize
  dsimp only
  split
  · next hempty => exact .inl ⟨String.isEmpty_iff.mp hempty, rfl⟩
  · split
    · next hy =>
      rw [Bool.and_eq_true, Bool.and_eq_true] at hy
      exact .inr (.inl ⟨hy.1.1, rfl⟩)
    · split
      · next hend => exact .inr (.inr (.inl ⟨hend, rfl⟩))
      · split
        · next hs => exact .inr (.inr (.inr (.inl ⟨hs, rfl⟩)))
        · next hs => exact .inr (.inr (.inr (.inr ⟨Bool.eq_false_iff.mpr hs, rfl⟩)))

/-- The plural of a plural is the plural, but for words in `u` and `i`, whose plurals end like a singular. -/
theorem pluralize_pluralize_eq (w : String) :
    pluralize (pluralize w) = if hasTailIn (lowercase w) ["u", "i"] then pluralize w ++ "es" else pluralize w := by
  -- A word with another last letter is no exception.
  have hlast : ∀ {tails : List String}, hasTailIn (lowercase w) tails = true →
      (∀ tail ∈ tails, tail.toList.getLast?.any ['y', 's', 'x', 'z', 'h'].contains = true) →
      hasTailIn (lowercase w) ["u", "i"] = false := by
    intro tails htails hchars
    rw [Bool.eq_false_iff]
    intro hin
    obtain ⟨c, hc, hget⟩ := getLast?_of_hasTailIn htails hchars
    obtain ⟨d, hd, hget'⟩ : ∃ d ∈ ['u', 'i'], (lowercase w).toList.getLast? = some d :=
      getLast?_of_hasTailIn hin (by decide)
    rw [hget] at hget'
    cases hget'
    have hapart : ∀ c ∈ ['y', 's', 'x', 'z', 'h'], c ∉ ['u', 'i'] := forall_of_all (by decide)
    exact hapart c hc hd
  rcases pluralize_eq w with ⟨rfl, -⟩ | ⟨hy, hplural⟩ | ⟨hend, hplural⟩ | ⟨hs, hplural⟩ | ⟨hs, hplural⟩
  · decide
  · rw [hplural, pluralize_ies, hlast (hasTailIn_iff.mpr ⟨"y", List.mem_singleton_self _, hy⟩) (by decide)]
    rfl
  · rw [hplural, pluralize_es, hlast hend (by decide)]
    rfl
  · rw [hplural, hplural, hlast (hasTailIn_iff.mpr ⟨"s", List.mem_singleton_self _, hs⟩) (by decide)]
    rfl
  · rw [hplural, pluralize_snoc, hasTailIn, List.any_cons, hs, Bool.false_or, hasTailIn]

theorem pluralize_pluralize_iff (w : String) :
    pluralize (pluralize w) = pluralize w ↔ hasTailIn (lowercase w) ["u", "i"] = false := by
  rw [pluralize_pluralize_eq]
  cases hasTailIn (lowercase w) ["u", "i"] with
  | false => exact iff_of_true (if_neg Bool.false_ne_true) rfl
  | true =>
    refine iff_of_false ?_ (by decide)
    rw [if_pos rfl, String.append_eq_left_iff]
    decide

/-! ## Letters that are compared -/

/-- How many characters of a word its compact spelling keeps. -/
def letterCount (w : String) : Nat := w.toList.countP fun c => isAsciiLower c || isAsciiDigit c

theorem letterCount_append (v w : String) : letterCount (v ++ w) = letterCount v + letterCount w := by
  rw [letterCount, String.toList_append, List.countP_append]
  rfl

theorem letterCount_eq_of_compact {v w : String} (hv : ∀ c ∈ v.toList, SmallLetter c)
    (hw : ∀ c ∈ w.toList, SmallLetter c) (h : compact v = compact w) : letterCount v = letterCount w := by
  have hkept : ∀ {x : String}, (∀ c ∈ x.toList, SmallLetter c) → (compact x).toList.length = letterCount x := by
    intro x hx
    rw [compact, onChars, String.toList_ofList, lower_of_small fun c hc => (hx c hc).2, letterCount,
      List.countP_eq_length_filter]
  rw [← hkept hv, h, hkept hw]

theorem letterCount_dropLast (n : Nat) (w : String) : letterCount w ≤ letterCount (dropLast n w) + n := by
  have hsplit : w.toList = (dropLast n w).toList ++ w.toList.drop (w.toList.length - n) := by
    rw [dropLast, onChars, String.toList_ofList, List.take_append_drop]
  have hdropped : (w.toList.drop (w.toList.length - n)).countP (fun c => isAsciiLower c || isAsciiDigit c) ≤ n := by
    refine Nat.le_trans List.countP_le_length ?_
    rw [List.length_drop]
    omega
  unfold letterCount
  rw [hsplit, List.countP_append]
  exact Nat.add_le_add_left hdropped _

theorem letterCount_le_pluralize (w : String) : letterCount w ≤ letterCount (pluralize w) := by
  unfold pluralize
  dsimp only
  split
  · exact Nat.le_refl _
  · split
    · have hies : letterCount "ies" = 3 := rfl
      have hdrop := letterCount_dropLast 1 w
      rw [letterCount_append]
      omega
    · split
      · rw [letterCount_append]
        exact Nat.le_add_right ..
      · split
        · exact Nat.le_refl _
        · rw [letterCount_append]
          exact Nat.le_add_right ..

/-- Neither the plural of a misread word nor a singular or plural of that is the word, also when only ASCII letters
count. -/
theorem compact_of_misread {w : String} (h : ∀ c ∈ w.toList, SmallLetter c) (hm : isMisread w = true) :
    ∀ x ∈ spellings (pluralize w), compact x ≠ compact w := by
  obtain ⟨hplural, hs⟩ := pluralize_of_misread h hm
  have hsmall : ∀ c ∈ (w ++ "s").toList, SmallLetter c := hplural ▸ small_pluralize h
  have hone : letterCount (w ++ "s") = letterCount w + 1 := letterCount_append w "s"
  -- Spellings of other lengths are told apart by counting letters.
  have hsingular : letterCount (singularize (w ++ "s")) ≠ letterCount w := by
    rw [singularize_snoc h]
    split
    · next hie =>
      obtain ⟨stem, rfl⟩ := hasTail_iff.mp (Bool.and_eq_true_iff.mp hie).1
      have hdrop : dropLast 2 (stem ++ "ie") = stem := dropLast_length stem "ie"
      have hie : letterCount "ie" = 2 := rfl
      have hy : letterCount "y" = 1 := rfl
      rw [hdrop, letterCount_append, letterCount_append]
      omega
    · split
      · next he =>
        obtain ⟨tail, hmem, htail⟩ := hasTailIn_iff.mp he
        have hends : ∀ tail ∈ ["sse", "use", "xe", "ze", "che", "she"], hasTail tail "e" = true := by decide
        obtain ⟨stem, rfl⟩ := hasTail_iff.mp (hasTail_trans htail (hends tail hmem))
        have hdrop : dropLast 1 (stem ++ "e") = stem := dropLast_length stem "e"
        have he : letterCount "e" = 1 := rfl
        rw [hdrop, letterCount_append]
        omega
      · split
        · omega
        · next hie he hi =>
          simp only [isMisread, hasTailIn, List.any_cons, hs] at hm hie he hi
          simp_all
  rw [hplural]
  intro x hx
  have hx' : x ∈ [w ++ "s", singularize (w ++ "s"), pluralize (w ++ "s")] := hx
  simp only [List.mem_cons, List.not_mem_nil, or_false] at hx'
  rcases hx' with rfl | rfl | rfl
  · intro heq
    have := letterCount_eq_of_compact hsmall h heq
    omega
  · exact fun heq => hsingular (letterCount_eq_of_compact (small_singularize hsmall) h heq)
  · intro heq
    have := letterCount_eq_of_compact (small_pluralize hsmall) h heq
    have := letterCount_le_pluralize (w ++ "s")
    omega

/-- The singular of the plural is the word again, but for a few endings. -/
theorem singularize_pluralize {w : String} (h : ∀ c ∈ w.toList, SmallLetter c) (hs : hasTail w "s" = false) :
    singularize (pluralize w) = w ↔ isMisread w = false := by
  constructor
  · intro heq
    rw [Bool.eq_false_iff]
    intro hm
    have hmem : singularize (pluralize w) ∈ spellings (pluralize w) := by simp [spellings]
    exact compact_of_misread h hm _ hmem (congrArg compact heq)
  · intro hm
    by_cases hne : w = ""
    · rw [hne]
      decide
    rcases pluralize_cases h hs hne with ⟨stem, hstem, rfl, hplural⟩ | ⟨hend, hplural⟩ | hplural
    · rw [hplural]
      refine singularize_ies (fun c hc => h c ?_) hstem
      rw [String.toList_append]
      exact List.mem_append_left _ hc
    · rw [hplural, singularize_es h hend]
    · simp only [isMisread, hasTailIn, List.any_cons, List.any_nil, Bool.or_false, Bool.or_eq_false_iff] at hm
      rw [hplural, singularize_snoc h]
      simp [hasTailIn, hm, hs]

/-- Nothing is taken off the name of a form that is one piece and says nothing of what the form does. -/
theorem stripAffixes_of_sole {name : String} (hpiece : ∀ c ∈ name.toList, c ≠ '_') (hne : name ≠ "")
    (hhead : name ∉ formHeads) (htail : name ∉ formTails) : stripAffixes name = name := by
  have hsplit : splitChar '_' name = [name] := by
    rw [splitChar, splitAt_free fun c hc => beq_false_of_ne (hpiece c hc), List.map_singleton, String.ofList_toList]
  have hempty : name.isEmpty = false := by rwa [Bool.eq_false_iff, Ne, String.isEmpty_iff]
  unfold stripAffixes
  rw [hsplit]
  simp [hempty, hhead, htail, joinWith]

theorem stripAffixes_pluralize {w : String} (h : ∀ c ∈ w.toList, SmallLetter c) (hm : isMisread w = true) :
    stripAffixes (snakeCase (pluralize w)) = snakeCase (pluralize w) := by
  have hlast : (pluralize w).toList.getLast? = some 's' := by
    rw [(pluralize_of_misread h hm).1]
    exact getLast?_of_hasTail (hasTail_iff.mpr ⟨w, rfl⟩) rfl
  have hwords : ∀ word ∈ formHeads ++ formTails, word.toList.getLast? ≠ some 's' := by decide
  rw [snakeCase_of_small (small_pluralize h)]
  apply stripAffixes_of_sole
  · exact fun c hc => (isAlphanumeric_apart (small_pluralize h c hc).1).2
  · intro hempty
    rw [hempty] at hlast
    cases hlast
  · exact fun hmem => hwords _ (List.mem_append_left _ hmem) hlast
  · exact fun hmem => hwords _ (List.mem_append_right _ hmem) hlast

theorem tableVariants_of_small {name : String} (h : ∀ c ∈ name.toList, SmallLetter c) :
    tableVariants name = spellings name ++ spellings name := by
  simp [tableVariants, spellings, snakeCase_of_small h, lowercase_of_small h]

end Naming

open Text Naming

/-! ## A schema of one table -/

theorem findSome?_eq_some_of_sole {α β : Type} {f : α → Option β} {b : β} (hf : ∀ a c, f a = some c → c = b)
    {l : List α} : l.findSome? f = some b ↔ ∃ a ∈ l, f a = some b := by
  constructor
  · exact List.exists_of_findSome?_eq_some
  · rintro ⟨a, ha, hb⟩
    cases hfound : l.findSome? f with
    | none => cases (List.findSome?_eq_none_iff.mp hfound a ha).symm.trans hb
    | some c =>
      obtain ⟨a', _, hc⟩ := List.exists_of_findSome?_eq_some hfound
      rw [hf a' c hc]

namespace Snapshot

section
variable {s : Snapshot} {t : Table} (ht : s.tables = [t])

include ht

theorem lookup?_sole {name : String} : s.lookup? name = some t ↔ lowercase t.name ∈ tableVariants name := by
  have hfind : ∀ v, s.tables.reverse.find? (fun t => lowercase t.name = v) =
      if lowercase t.name = v then some t else none := by
    intro v
    simp [ht, List.find?_singleton]
  unfold lookup?
  simp only [hfind]
  rw [findSome?_eq_some_of_sole]
  · simp
  · intro v u hu
    split at hu <;> cases hu
    rfl

theorem spelled?_sole (spelling : String) : s.spelled? spelling =
    if lowercase t.name = spelling ∨ compact t.name = compact spelling then some t else none := by
  unfold spelled?
  rw [ht]
  by_cases hname : lowercase t.name = spelling
  · simp [hname]
  · by_cases hcompact : compact t.name = compact spelling <;> simp [hname, hcompact]

theorem findSome?_spelled_sole {l : List String} : l.findSome? s.spelled? = some t ↔
    ∃ x ∈ l, lowercase t.name = x ∨ compact t.name = compact x := by
  rw [findSome?_eq_some_of_sole]
  · simp only [spelled?_sole ht, ite_eq_left_iff, reduceCtorEq, imp_false, not_not]
  · intro x u hu
    rw [spelled?_sole ht] at hu
    split at hu <;> cases hu
    rfl

theorem formTable?_sole {form : String} (hstrip : stripAffixes (snakeCase form) = snakeCase form) :
    s.formTable? form = some t ↔
      ∃ x ∈ spellings (snakeCase form), lowercase t.name = x ∨ compact t.name = compact x := by
  rw [← findSome?_spelled_sole ht, formTable?, hstrip]
  simp

theorem formTable?_of_spelled {form x : String} (hx : x ∈ spellings (snakeCase form))
    (hname : lowercase t.name = x) : s.formTable? form = some t := by
  have hfound := (findSome?_spelled_sole ht).mpr ⟨x, hx, .inl hname⟩
  rw [formTable?, hfound]
  rfl

/-- Of a schema with one table: by the plural of a word routes and forms find the table of this name, but for a few
endings, and by the word itself the table that is named in the plural. -/
theorem found_by_number {w : String} (h : ∀ c ∈ w.toList, SmallLetter c) (hs : hasTail w "s" = false) :
    (t.name = w → (s.lookup? (pluralize w) = some t ↔ isMisread w = false) ∧
      (s.formTable? (pluralize w) = some t ↔ isMisread w = false)) ∧
    (t.name = pluralize w → s.lookup? w = some t ∧ s.formTable? w = some t) := by
  have hsmall := small_pluralize h
  constructor
  · intro hname
    have hlower : lowercase t.name = w := by rw [hname, lowercase_of_small h]
    have hmem : isMisread w = false → w ∈ spellings (pluralize w) := by
      intro hm
      simp [spellings, (singularize_pluralize h hs).mpr hm]
    constructor
    · rw [lookup?_sole ht, hlower, tableVariants_of_small hsmall, List.mem_append, or_self]
      refine ⟨fun hw => ?_, hmem⟩
      rw [Bool.eq_false_iff]
      exact fun hm => compact_of_misread h hm w hw rfl
    · constructor
      · intro hfound
        rw [Bool.eq_false_iff]
        intro hm
        rw [formTable?_sole ht (stripAffixes_pluralize h hm), hlower, hname, snakeCase_of_small hsmall] at hfound
        obtain ⟨x, hx, hfound⟩ := hfound
        refine compact_of_misread h hm x hx ?_
        rcases hfound with rfl | hfound
        · rfl
        · exact hfound.symm
      · intro hm
        refine formTable?_of_spelled ht ?_ hlower
        rw [snakeCase_of_small hsmall]
        exact hmem hm
  · intro hname
    have hlower : lowercase t.name = pluralize w := by rw [hname, lowercase_of_small hsmall]
    have hmem : pluralize w ∈ spellings w := by simp [spellings]
    constructor
    · rw [lookup?_sole ht, hlower, tableVariants_of_small h]
      exact List.mem_append_left _ hmem
    · refine formTable?_of_spelled ht ?_ hlower
      rw [snakeCase_of_small h]
      exact hmem

end

/-- A schema whose only table has no columns. -/
def ofTable (name : String) : Snapshot := ⟨"1", ⟨2024, 5, 1, 12, 0, 0, 0, some 0⟩, [⟨name, [], none, []⟩], none, none⟩

/-- Categories are found by either number, a movie is not found by its plural. -/
theorem found_by_number_category :
    (∀ c ∈ "category".toList, SmallLetter c) ∧ hasTail "category" "s" = false ∧
      (ofTable "category").lookup? "categories" = some ⟨"category", [], none, []⟩ ∧
      (ofTable "category").formTable? "categories" = some ⟨"category", [], none, []⟩ ∧
      (ofTable "categories").lookup? "category" = some ⟨"categories", [], none, []⟩ ∧
      (ofTable "categories").formTable? "category" = some ⟨"categories", [], none, []⟩ ∧
      (ofTable "movie").lookup? "movies" ≠ some ⟨"movie", [], none, []⟩ ∧
      (ofTable "movie").formTable? "movies" ≠ some ⟨"movie", [], none, []⟩ := by
  have hcategory : ∀ c ∈ "category".toList, SmallLetter c := smallLetters_of_all (by decide +kernel)
  have hmovie : ∀ c ∈ "movie".toList, SmallLetter c := smallLetters_of_all (by decide +kernel)
  have hplural : pluralize "category" = "categories" := by decide +kernel
  have hmovies : pluralize "movie" = "movies" := by decide +kernel
  obtain ⟨hsingle, -⟩ := found_by_number (s := ofTable "category") rfl hcategory (by decide)
  obtain ⟨-, hmany⟩ := found_by_number (s := ofTable "categories") rfl hcategory (by decide)
  obtain ⟨hmisread, -⟩ := found_by_number (s := ofTable "movie") rfl hmovie (by decide)
  rw [hplural] at hsingle hmany
  rw [hmovies] at hmisread
  obtain ⟨hroute, hform⟩ := hsingle rfl
  obtain ⟨hnoRoute, hnoForm⟩ := hmisread rfl
  refine ⟨hcategory, by decide, hroute.mpr (by decide), hform.mpr (by decide), (hmany rfl).1, (hmany rfl).2, ?_, ?_⟩
  · exact fun hfound => absurd (hnoRoute.mp hfound) (by decide)
  · exact fun hfound => absurd (hnoForm.mp hfound) (by decide)

end Snapshot

/-! ## A table that is named in the plural -/

namespace Table

/-- The plural of a word is kept as its own plural exactly when the word does not end in `u` or `i`. Of a table named by
a plural, resource, routes and stub go by the name as it is, and after such an ending by the name with another `es`. -/
theorem named_in_plural (w : String) :
    (pluralize (pluralize w) = pluralize w ↔ hasTailIn (lowercase w) ["u", "i"] = false) ∧
      ∀ t : Table, t.name = pluralize w →
        t.resourceName = kebabCase (if hasTailIn (lowercase w) ["u", "i"] then t.name ++ "es" else t.name) ∧
          (∀ r ∈ t.crudRoutes,
            r.path = "/api/" ++ t.resourceName ∨ r.path = "/api/" ++ t.resourceName ++ "/:" ++ t.keyColumn) ∧
          ∀ directory, t.stubPath directory = directory.join (.parse (t.resourceName ++ ".py")) := by
  refine ⟨pluralize_pluralize_iff w, ?_⟩
  intro t hname
  refine ⟨?_, ?_, fun _ => rfl⟩
  · rw [resourceName, hname, pluralize_pluralize_eq]
  · intro r hr
    simp only [crudRoutes, List.mem_cons, List.not_mem_nil, or_false] at hr
    rcases hr with rfl | rfl | rfl | rfl | rfl
    · exact .inl rfl
    · exact .inr rfl
    · exact .inl rfl
    · exact .inr rfl
    · exact .inr rfl

/-- Categories have a resource of their own name, menus do not. -/
theorem named_in_plural_categories :
    pluralize (pluralize "category") = pluralize "category" ∧
      (⟨"categories", [], none, []⟩ : Table).name = pluralize "category" ∧
      (⟨"categories", [], none, []⟩ : Table).resourceName = "categories" ∧
      pluralize (pluralize "menu") ≠ pluralize "menu" ∧
      (⟨"menus", [], none, []⟩ : Table).name = pluralize "menu" ∧
      (⟨"menus", [], none, []⟩ : Table).resourceName = "menuses" := by
  obtain ⟨hcategory, htable⟩ := named_in_plural "category"
  obtain ⟨hmenu, htable'⟩ := named_in_plural "menu"
  obtain ⟨hresource, -⟩ := htable ⟨"categories", [], none, []⟩ (by decide +kernel)
  obtain ⟨hresource', -⟩ := htable' ⟨"menus", [], none, []⟩ (by decide +kernel)
  refine ⟨hcategory.mpr (by decide), by decide +kernel, ?_, ?_, by decide +kernel, ?_⟩
  · rw [hresource]
    decide +kernel
  · exact fun h => absurd (hmenu.mp h) (by decide)
  · rw [hresource']
    decide +kernel

end Table

end SchemaConcord
