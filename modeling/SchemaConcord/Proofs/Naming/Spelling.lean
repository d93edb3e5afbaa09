import Mathlib.Data.List.TakeWhile
import SchemaConcord.Naming.Words
import SchemaConcord.Proofs.Text.Case
import SchemaConcord.Proofs.Text.Edit

/-!
# Characters of spellings

The spellings of a lowercase name, in the plural and the singular, in snake, kebab and Pascal case, have only characters
that may go into a name, hyphens in kebab case apart.
-/

namespace SchemaConcord

namespace Text

/-! ## Codes -/

theorem toNat_ofNat {n : Nat} (h : n.isValidChar) : (Char.ofNat n).toNat = n := by
  rw [Char.ofNat, dif_pos h]
  rfl

theorem runImage?_eq_some {runs : Array (Nat × Nat × Nat × Nat)} {n image : Nat}
    (h : runImage? runs n = some image) :
    ∃ run ∈ runs.toList, run.1 ≤ n ∧ n ≤ run.2.1 ∧ (n - run.1) % run.2.2.1 = 0 ∧ image = n - run.1 + run.2.2.2 := by
  unfold runImage? at h
  obtain ⟨run, hfind, rfl⟩ := Option.map_eq_some_iff.mp h
  have hinside := Array.find?_some hfind
  simp only [Bool.and_eq_true, decide_eq_true_eq, beq_iff_eq] at hinside
  exact ⟨run, Array.mem_toList_iff.mpr (Array.mem_of_find?_eq_some hfind), hinside.1.1, hinside.1.2, hinside.2, rfl⟩

/-! ## Uppercase of name characters -/

/-- Codes of the characters that may go into a name. -/
def isNameCode (n : Nat) : Bool :=
  if n < 128 then (65 ≤ n && n ≤ 90) || (97 ≤ n && n ≤ 122) || n == 95 || (48 ≤ n && n ≤ 57)
  else namePartRanges.toList.any fun r => Nat.ble n r.2 && Nat.ble r.1 n

theorem isNamePart_eq (c : Char) : isNamePart c = isNameCode c.toNat := by
  have hunder : (c == '_') = (c.toNat == 95) := by
    rw [Bool.eq_iff_iff, beq_iff_eq, beq_iff_eq]
    exact ⟨fun h => h ▸ rfl, fun h => Char.toNat_inj.mp (h.trans rfl)⟩
  unfold isNamePart isNameCode isAscii inRanges
  rw [← Array.any_toList, hunder]
  by_cases hascii : c.toNat < 128
  · rw [if_pos (decide_eq_true hascii), if_pos hascii]
    rfl
  · rw [if_neg (by simpa using hascii), if_neg hascii]
    congr 1
    funext r
    rw [Bool.eq_iff_iff, Bool.and_eq_true, Bool.and_eq_true, Nat.ble_eq, Nat.ble_eq, decide_eq_true_eq,
      decide_eq_true_eq, and_comm]

theorem upperRuns_names : ∀ run ∈ upperRuns.toList,
    (namePartRanges.toList.any fun r => Nat.ble (run.2.2.2 + (run.2.1 - run.1)) r.2 && Nat.ble r.1 run.2.2.2) = true ∨
      ∀ k ≤ run.2.1 - run.1, k % run.2.2.1 = 0 → isNameCode (run.1 + k) = true →
        isNameCode (run.2.2.2 + k) = true := by
  decide +kernel

theorem upperExpansions_names : ∀ x ∈ upperExpansions.toList, ∀ n ∈ x.2, isNameCode n = true := by
  decide +kernel

theorem namePartRanges_valid : ∀ r ∈ namePartRanges.toList, 128 ≤ r.1 ∧ (r.2 < 55296 ∨ 57344 ≤ r.1 ∧ r.2 < 1114112) := by
  decide +kernel

theorem isNamePart_ofNat {n : Nat} (h : isNameCode n = true) : isNamePart (Char.ofNat n) = true := by
  have hvalid : n.isValidChar := by
    unfold isNameCode at h
    split at h
    · exact .inl (by omega)
    · obtain ⟨r, hr, hn⟩ := List.any_eq_true.mp h
      rw [Bool.and_eq_true, Nat.ble_eq, Nat.ble_eq] at hn
      rcases (namePartRanges_valid r hr).2 with hr | hr
      · exact .inl (by omega)
      · exact .inr (by omega)
  rw [isNamePart_eq, toNat_ofNat hvalid]
  exact h

theorem isNameCode_image {n image : Nat} (hn : isNameCode n = true) (h : runImage? upperRuns n = some image) :
    isNameCode image = true := by
  obtain ⟨⟨first, last, step, start⟩, hmem, hfirst, hlast, hstep, rfl⟩ := runImage?_eq_some h
  dsimp only at hfirst hlast hstep
  show isNameCode (n - first + start) = true
  rcases upperRuns_names _ hmem with hcontained | heach
  · obtain ⟨r, hr, hbounds⟩ := List.any_eq_true.mp hcontained
    rw [Bool.and_eq_true, Nat.ble_eq, Nat.ble_eq] at hbounds
    have habove := (namePartRanges_valid r hr).1
    dsimp only at hbounds
    unfold isNameCode
    rw [if_neg (by omega)]
    refine List.any_eq_true.mpr ⟨r, hr, ?_⟩
    rw [Bool.and_eq_true, Nat.ble_eq, Nat.ble_eq]
    omega
  · rw [Nat.add_comm]
    refine heach (n - first) (Nat.sub_le_sub_right hlast first) hstep ?_
    rw [Nat.add_sub_cancel' hfirst]
    exact hn

theorem isNameCode_capital {n : Nat} (hlow : 65 ≤ n) (hhigh : n ≤ 90) : isNameCode n = true := by
  unfold isNameCode
  rw [if_pos (by omega), decide_eq_true hlow, decide_eq_true hhigh]
  rfl

theorem isNamePart_upper {c : Char} (h : isNamePart c = true) : ∀ d ∈ upperChars c, isNamePart d = true := by
  intro d hd
  unfold upperChars at hd
  split at hd
  · obtain rfl := List.mem_singleton.mp hd
    unfold asciiUpper
    split
    · next hlower =>
      simp only [isAsciiLower, Bool.and_eq_true, decide_eq_true_eq, Char.le_def, UInt32.le_iff_toNat_le] at hlower
      have hlow : 97 ≤ c.toNat := hlower.1
      have hhigh : c.toNat ≤ 122 := hlower.2
      exact isNamePart_ofNat (isNameCode_capital (by omega) (by omega))
    · exact h
  · split at hd
    · next hfind =>
      obtain ⟨n, hn, rfl⟩ := List.mem_map.mp hd
      have hall := upperExpansions_names _ (Array.mem_toList_iff.mpr (Array.mem_of_find?_eq_some hfind))
      exact isNamePart_ofNat (hall n hn)
    · rw [List.mem_singleton] at hd
      rw [hd]
      cases himage : runImage? upperRuns c.toNat with
      | none => exact h
      | some image => exact isNamePart_ofNat (isNameCode_image (isNamePart_eq c ▸ h) himage)

/-! ## First characters -/

/-- Whether each range of a list lies in one of another, in the order of both. -/
def lieIn (ranges : List (Nat × Nat)) : List (Nat × Nat) → Bool
  | [] => ranges.isEmpty
  | b :: others => lieIn (ranges.dropWhile fun a => Nat.ble b.1 a.1 && Nat.ble a.2 b.2) others

theorem exists_range {ranges others : List (Nat × Nat)} (h : lieIn ranges others = true) :
    ∀ a ∈ ranges, ∃ b ∈ others, b.1 ≤ a.1 ∧ a.2 ≤ b.2 := by
  induction others generalizing ranges with
  | nil =>
    obtain rfl := List.isEmpty_iff.mp h
    simp
  | cons b others ih =>
    intro a ha
    rw [← List.takeWhile_append_dropWhile (p := fun a => Nat.ble b.1 a.1 && Nat.ble a.2 b.2) (l := ranges)] at ha
    rcases List.mem_append.mp ha with ha | ha
    · have hinside := List.mem_takeWhile_imp ha
      rw [Bool.and_eq_true, Nat.ble_eq, Nat.ble_eq] at hinside
      exact ⟨b, List.mem_cons_self .., hinside⟩
    · obtain ⟨b', hb', hinside⟩ := ih h a ha
      exact ⟨b', List.mem_cons_of_mem b hb', hinside⟩

theorem nameStartRanges_lieIn : lieIn nameStartRanges.toList namePartRanges.toList = true := by
  decide +kernel

theorem inRanges_iff {table : Array (Nat × Nat)} {n : Nat} :
    inRanges table n = true ↔ ∃ r ∈ table.toList, r.1 ≤ n ∧ n ≤ r.2 := by
  rw [inRanges, ← Array.any_toList, List.any_eq_true]
  simp only [Bool.and_eq_true, decide_eq_true_eq]

theorem isNamePart_of_start {c : Char} (h : isNameStart c = true) : isNamePart c = true := by
  unfold isNameStart at h
  unfold isNamePart
  split at h
  · next hascii => rw [if_pos hascii, h, Bool.true_or]
  · next hascii =>
    rw [if_neg hascii]
    obtain ⟨r, hr, hn⟩ := inRanges_iff.mp h
    obtain ⟨b, hb, hinside⟩ := exists_range nameStartRanges_lieIn r hr
    exact inRanges_iff.mpr ⟨b, hb, by omega⟩

/-! ## Lowercase -/

/-- A character that lowercasing keeps. -/
def Small (c : Char) : Prop := lowerChar c = c ∧ c.toNat ≠ 931 ∧ c.toNat ≠ 304

instance (c : Char) : Decidable (Small c) := inferInstanceAs (Decidable (_ ∧ _ ∧ _))

theorem small_of_lower {cs : List Char} (h : lower cs = cs) : ∀ c ∈ cs, Small c := by
  have hrun : ∀ (before : List Char), lowerFrom before cs = cs → ∀ c ∈ cs, Small c := by
    clear h
    induction cs with
    | nil => simp
    | cons c cs ih =>
      intro before h
      unfold lowerFrom at h
      split at h
      · next hsigma =>
        have hc := (List.cons.inj h).1
        split at hc <;> rw [← hc] at hsigma <;> cases hsigma
      · next hsigma =>
        split at h
        · next hdotted =>
          rw [← (List.cons.inj h).1] at hdotted
          cases hdotted
        · next hdotted =>
          obtain ⟨hc, h⟩ := List.cons.inj h
          rintro d (_ | ⟨_, hd⟩)
          · exact ⟨hc, by simpa using hsigma, by simpa using hdotted⟩
          · exact ih _ h d hd
  exact hrun [] h

theorem lower_of_small {cs : List Char} (h : ∀ c ∈ cs, Small c) : lower cs = cs :=
  (lower_eq_map h).trans cs.map_id

/-! ## Lowercase of lowercase -/

/-- Whether nothing that a run maps to is mapped further by another run; in runs of every second character it may stand
between those. -/
def imageApart (run other : Nat × Nat × Nat × Nat) : Bool :=
  Nat.blt (run.2.2.2 + (run.2.1 - run.1)) other.1 || Nat.blt other.2.1 run.2.2.2 ||
    Nat.beq other.2.2.1 2 && (Nat.beq run.2.2.1 2 || Nat.beq run.1 run.2.1) && Nat.beq ((run.2.2.2 + other.1) % 2) 1

theorem lowerRuns_apart : (lowerRuns.toList.all fun run => lowerRuns.toList.all (imageApart run)) = true := by
  decide +kernel

theorem lowerRuns_images : ∀ run ∈ lowerRuns.toList,
    97 ≤ run.2.2.2 ∧ (∀ n ∈ [304, 931], run.2.2.2 + (run.2.1 - run.1) < n ∨ n < run.2.2.2) ∧
      (run.2.2.2 + (run.2.1 - run.1) < 55296 ∨ 57344 ≤ run.2.2.2 ∧ run.2.2.2 + (run.2.1 - run.1) < 1114112) := by
  decide +kernel

theorem runImage?_image {n image : Nat} (h : runImage? lowerRuns n = some image) :
    runImage? lowerRuns image = none := by
  obtain ⟨run, hrun, hfirst, hlast, hstep, rfl⟩ := runImage?_eq_some h
  rw [Option.eq_none_iff_forall_ne_some]
  intro again hagain
  obtain ⟨other, hother, hfirst', hlast', hstep', -⟩ := runImage?_eq_some hagain
  have hapart := List.all_eq_true.mp (List.all_eq_true.mp lowerRuns_apart run hrun) other hother
  simp only [imageApart, Bool.or_eq_true, Bool.and_eq_true, Nat.blt_eq, Nat.beq_eq] at hapart
  rcases hapart with (hbelow | habove) | ⟨⟨htwo, hsame⟩, hodd⟩
  · omega
  · omega
  · rw [htwo] at hstep'
    rcases hsame with hsame | hsame
    · rw [hsame] at hstep
      omega
    · omega

theorem small_of_ascii {c : Char} (hascii : isAscii c = true) (hupper : isAsciiUpper c = false) : Small c := by
  have hcode : c.toNat < 128 := of_decide_eq_true hascii
  refine ⟨?_, by omega, by omega⟩
  rw [lowerChar, if_pos hascii, asciiLower, hupper]
  rfl

theorem small_of_unmapped {c : Char} (hupper : isAsciiUpper c = false) (hsigma : c.toNat ≠ 931)
    (hdotted : c.toNat ≠ 304) (hnone : runImage? lowerRuns c.toNat = none) : Small c := by
  by_cases hascii : isAscii c = true
  · exact small_of_ascii hascii hupper
  · refine ⟨?_, hsigma, hdotted⟩
    rw [lowerChar, if_neg hascii, if_neg (by simpa using hdotted), hnone]
    rfl

/-- The lowercase of a character is kept, but for the two that lowercasing does not take by themselves. -/
theorem small_lowerChar {c : Char} (hsigma : c.toNat ≠ 931) (hdotted : c.toNat ≠ 304) : Small (lowerChar c) := by
  unfold lowerChar
  by_cases hascii : isAscii c = true
  · rw [if_pos hascii, asciiLower]
    by_cases hupper : isAsciiUpper c = true
    · have hcode := isAsciiUpper_iff.mp hupper
      have hshift : (Char.ofNat (c.toNat + 32)).toNat = c.toNat + 32 := toNat_ofNat (.inl (by omega))
      rw [if_pos hupper]
      refine small_of_ascii (decide_eq_true (by omega)) ?_
      rw [Bool.eq_false_iff]
      intro hagain
      have := isAsciiUpper_iff.mp hagain
      omega
    · rw [if_neg hupper]
      exact small_of_ascii hascii (Bool.eq_false_iff.mpr hupper)
  · rw [if_neg hascii, if_neg (by simpa using hdotted)]
    cases himage : runImage? lowerRuns c.toNat with
    | none =>
      show Small c
      refine small_of_unmapped (Bool.eq_false_iff.mpr fun hupper => hascii ?_) hsigma hdotted himage
      have := isAsciiUpper_iff.mp hupper
      exact decide_eq_true (by omega)
    -- No run of the table goes through an image, so that an image is kept.
    | some image =>
      have hnone := runImage?_image himage
      obtain ⟨run, hrun, hfirst, hlast, -, rfl⟩ := runImage?_eq_some himage
      obtain ⟨hlow, hother, hvalid⟩ := lowerRuns_images run hrun
      have hsigma := hother 931 (by decide)
      have hdotted := hother 304 (by decide)
      have hcode := toNat_ofNat (n := c.toNat - run.1 + run.2.2.2)
        (hvalid.imp (fun h => by omega) fun h => by omega)
      show Small (Char.ofNat (c.toNat - run.1 + run.2.2.2))
      refine small_of_unmapped ?_ (by omega) (by omega) (by rw [hcode]; exact hnone)
      rw [Bool.eq_false_iff]
      intro hupper
      have := isAsciiUpper_iff.mp hupper
      omega

/-- Lowercase text stays as it is. -/
theorem small_lower (cs : List Char) : ∀ c ∈ lower cs, Small c :=
  forall_lower (forall_of_all (by decide +kernel)) fun _ _ => small_lowerChar

/-! ## Lowercase of parts -/

/-- The small sigma inside a word, for both of its forms. -/
def medial (c : Char) : Char := if c = 'ς' then 'σ' else c

/-- What a character becomes in lowercase, but for the form of a sigma. -/
def lowerImage (c : Char) : List Char :=
  if c.toNat = 931 then ['σ'] else if c.toNat = 304 then ['i', '\u0307'] else [medial (lowerChar c)]

/-- Lowercasing takes each character by itself, but for the form of a sigma. -/
theorem map_medial_lower (cs : List Char) : (lower cs).map medial = cs.flatMap lowerImage := by
  have hrun : ∀ (before : List Char), (lowerFrom before cs).map medial = cs.flatMap lowerImage := by
    induction cs with
    | nil => exact fun _ => rfl
    | cons c cs ih =>
      intro before
      rw [lowerFrom, List.map_append, ih, List.flatMap_cons]
      congr 1
      unfold lowerImage
      by_cases hsigma : c.toNat = 931
      · rw [if_pos (by simpa using hsigma), if_pos hsigma]
        split <;> rfl
      · rw [if_neg (by simpa using hsigma), if_neg hsigma]
        by_cases hdotted : c.toNat = 304
        · rw [if_pos (by simpa using hdotted), if_pos hdotted]
          rfl
        · rw [if_neg (by simpa using hdotted), if_neg hdotted]
          rfl
  exact hrun []

theorem map_medial_lower_append (cs ds : List Char) :
    (lower (cs ++ ds)).map medial = (lower cs).map medial ++ (lower ds).map medial := by
  simp only [map_medial_lower, List.flatMap_append]

theorem medial_of_ascii {c : Char} (h : isAscii c = true) : medial c = c := by
  apply if_neg
  rintro rfl
  exact absurd h (by decide)

theorem isAscii_medial (c : Char) : isAscii (medial c) = isAscii c := by
  unfold medial
  split
  · next h => rw [h]; rfl
  · rfl

/-- An ASCII ending does not mind the form of sigmas. -/
theorem suffix_map_medial {tail cs : List Char} (htail : ∀ c ∈ tail, isAscii c = true) :
    tail <:+ cs.map medial ↔ tail <:+ cs := by
  rw [List.suffix_map_iff]
  constructor
  · rintro ⟨l, hl, rfl⟩
    have hkept : l.map medial = l := by
      refine (List.map_congr_left fun c hc => ?_).trans (List.map_id l)
      have hascii := htail _ (List.mem_map_of_mem hc)
      rw [isAscii_medial] at hascii
      exact medial_of_ascii hascii
    rwa [hkept]
  · intro h
    exact ⟨tail, h, ((List.map_congr_left fun c hc => medial_of_ascii (htail c hc)).trans (List.map_id tail)).symm⟩

/-- A common ending of small letters does not count in lowercase either. -/
theorem hasTail_lowercase_append (w : String) {u v : String} (hascii : (u.toList ++ v.toList).all isAscii = true)
    (hv : lowercase v = v) : hasTail (lowercase (w ++ v)) (u ++ v) = hasTail (lowercase w) u := by
  have hascii := List.all_eq_true.mp hascii
  have hparts := List.forall_mem_append.mp hascii
  have hkept : (lower v.toList).map medial = v.toList := by
    rw [String.ofList_inj.mp (hv.trans String.ofList_toList.symm)]
    exact (List.map_congr_left fun c hc => medial_of_ascii (hparts.2 c hc)).trans (List.map_id _)
  rw [Bool.eq_iff_iff, hasTail, hasTail, List.isSuffixOf_iff_suffix, List.isSuffixOf_iff_suffix, lowercase, lowercase,
    String.toList_ofList, String.toList_ofList, String.toList_append, String.toList_append,
    ← suffix_map_medial hascii, ← suffix_map_medial hparts.1, map_medial_lower_append, hkept]
  constructor
  · rintro ⟨front, hfront⟩
    rw [← List.append_assoc, List.append_left_inj] at hfront
    exact ⟨front, hfront⟩
  · rintro ⟨front, hfront⟩
    exact ⟨front, by rw [← List.append_assoc, hfront]⟩

theorem hasTail_lowercase_self (w : String) {v : String} (hascii : v.toList.all isAscii = true)
    (hv : lowercase v = v) : hasTail (lowercase (w ++ v)) v = true := by
  have hempty : hasTail (lowercase (w ++ v)) ("" ++ v) = hasTail (lowercase w) "" :=
    hasTail_lowercase_append w hascii hv
  rw [String.empty_append] at hempty
  exact hempty.trans (hasTail_iff.mpr ⟨lowercase w, String.append_empty.symm⟩)

theorem hasTailIn_lowercase_append (w : String) (tails : List String) {v : String}
    (hascii : (tails.all fun u => (u.toList ++ v.toList).all isAscii) = true) (hv : lowercase v = v) :
    hasTailIn (lowercase (w ++ v)) (tails.map (· ++ v)) = hasTailIn (lowercase w) tails := by
  rw [Bool.eq_iff_iff, hasTailIn_iff, hasTailIn_iff]
  simp only [List.mem_map, exists_exists_and_eq_and]
  refine exists_congr fun u => and_congr_right fun hu => ?_
  rw [hasTail_lowercase_append w (List.all_eq_true.mp hascii u hu) hv]

end Text

/-! ## Spellings -/

namespace Naming

open Text

section
variable {p : Char → Prop} {w : String}

theorem forall_dropLast (n : Nat) (h : ∀ c ∈ w.toList, p c) : ∀ c ∈ (dropLast n w).toList, p c := by
  intro c hc
  rw [dropLast, onChars, String.toList_ofList] at hc
  exact h c (List.mem_of_mem_take hc)

theorem forall_append {v : String} (h : ∀ c ∈ w.toList, p c) (hv : ∀ c ∈ v.toList, p c) :
    ∀ c ∈ (w ++ v).toList, p c := by
  rw [String.toList_append]
  exact List.forall_mem_append.mpr ⟨h, hv⟩

theorem forall_pluralize (hi : p 'i') (he : p 'e') (hs : p 's') (h : ∀ c ∈ w.toList, p c) :
    ∀ c ∈ (pluralize w).toList, p c := by
  unfold pluralize
  dsimp only
  split
  · exact h
  · split
    · exact forall_append (forall_dropLast 1 h) (by simp [hi, he, hs])
    · split
      · exact forall_append h (by simp [he, hs])
      · split
        · exact h
        · exact forall_append h (by simp [hs])

theorem forall_singularize (hy : p 'y') (h : ∀ c ∈ w.toList, p c) : ∀ c ∈ (singularize w).toList, p c := by
  unfold singularize
  dsimp only
  split
  · exact forall_append (forall_dropLast 3 h) (by simp [hy])
  · split
    · exact forall_dropLast 2 h
    · split
      · exact forall_dropLast 1 h
      · exact h

theorem forall_markAcronyms (hunder : p '_') {cs : List Char} (h : ∀ c ∈ cs, p c) :
    ∀ inRun, ∀ c ∈ markAcronyms inRun cs, p c := by
  induction cs with
  | nil => simp [markAcronyms]
  | cons d cs ih =>
    intro inRun
    have ih := ih fun c hc => h c (List.mem_cons_of_mem d hc)
    have hd := h d (List.mem_cons_self ..)
    unfold markAcronyms
    refine List.forall_mem_append.mpr ⟨?_, ih _⟩
    split
    · simp [hunder, hd]
    · simp [hd]

theorem forall_markHumps (hunder : p '_') {cs : List Char} (h : ∀ c ∈ cs, p c) :
    ∀ afterSmall, ∀ c ∈ markHumps afterSmall cs, p c := by
  induction cs with
  | nil => simp [markHumps]
  | cons d cs ih =>
    intro afterSmall
    have ih := ih fun c hc => h c (List.mem_cons_of_mem d hc)
    have hd := h d (List.mem_cons_self ..)
    unfold markHumps
    refine List.forall_mem_append.mpr ⟨?_, ih _⟩
    split
    · simp [hunder, hd]
    · simp [hd]

end

/-- The characters of a name that lowercasing keeps: they may go into a name, and stay as they are. -/
def NameChar (c : Char) : Prop := isNamePart c = true ∧ Small c

instance (c : Char) : Decidable (NameChar c) := inferInstanceAs (Decidable (_ ∧ _ ∧ _ ∧ _))

theorem nameChar_endings : NameChar '_' ∧ NameChar 'i' ∧ NameChar 'e' ∧ NameChar 's' ∧ NameChar 'y' :=
  have hascii : ∀ {c : Char}, isNamePart c = true → isAscii c = true → isAsciiUpper c = false → NameChar c :=
    fun hpart hascii hupper => ⟨hpart, small_of_ascii hascii hupper⟩
  ⟨hascii rfl rfl rfl, hascii rfl rfl rfl, hascii rfl rfl rfl, hascii rfl rfl rfl, hascii rfl rfl rfl⟩

theorem nameChar_of_lowercase {w : String} (hid : isIdentifier w.toList = true) (hlow : lowercase w = w) :
    ∀ c ∈ w.toList, NameChar c := by
  have hsmall := small_of_lower (String.ofList_inj.mp (hlow.trans String.ofList_toList.symm))
  intro c hc
  refine ⟨?_, hsmall c hc⟩
  cases hw : w.toList with
  | nil => rw [hw] at hc; cases hc
  | cons d cs =>
    rw [hw] at hid hc
    simp only [isIdentifier, Bool.and_eq_true, List.all_eq_true] at hid
    rcases List.mem_cons.mp hc with rfl | hc
    · exact isNamePart_of_start hid.1
    · exact hid.2 c hc

theorem nameChar_snakeCase {w : String} (h : ∀ c ∈ w.toList, NameChar c) : ∀ c ∈ (snakeCase w).toList, NameChar c := by
  have hunder := nameChar_endings.1
  have hmarked := forall_squeeze (q := isSeparator) (List.forall_mem_singleton.mpr hunder)
    (forall_markHumps hunder (forall_markAcronyms hunder (forall_trim (q := isBlank) h) false) false)
  rw [snakeCase, onChars, String.toList_ofList, lower_of_small fun c hc => (hmarked c hc).2]
  exact hmarked

theorem kebabCase_chars {w : String} (h : ∀ c ∈ w.toList, NameChar c) :
    ∀ c ∈ (kebabCase w).toList, isNamePart c = true ∨ c = '-' := by
  intro c hc
  rw [kebabCase, onChars, String.toList_ofList] at hc
  obtain ⟨d, hd, rfl⟩ := List.mem_map.mp hc
  split
  · exact .inr rfl
  · exact .inl (nameChar_snakeCase h d hd).1

theorem pascalCase_chars {w : String} (h : ∀ c ∈ w.toList, NameChar c) :
    ∀ c ∈ (pascalCase w).toList, isNamePart c = true := by
  have hpieces := forall_splitAt (q := (· == '_')) (nameChar_snakeCase h)
  have hcapitals : ∀ s ∈ (splitChar '_' (snakeCase w)).map capitalize, ∀ c ∈ s.toList, isNamePart c = true := by
    intro s hs c hc
    obtain ⟨piece, hpiece, rfl⟩ := List.mem_map.mp hs
    obtain ⟨cs, hcs, rfl⟩ := List.mem_map.mp hpiece
    rw [capitalize, onChars, String.toList_ofList, String.toList_ofList] at hc
    have hall := hpieces cs hcs
    rcases List.mem_append.mp hc with hc | hc
    · obtain ⟨d, hd, hc⟩ := List.mem_flatMap.mp hc
      exact isNamePart_upper (hall d (List.mem_of_mem_take hd)).1 c hc
    · exact (hall c (List.mem_of_mem_drop hc)).1
  intro c hc
  rw [pascalCase, String.toList_join] at hc
  obtain ⟨s, hs, hc⟩ := List.mem_flatMap.mp hc
  exact hcapitals s hs c hc

theorem nameChar_pluralize {w : String} (h : ∀ c ∈ w.toList, NameChar c) : ∀ c ∈ (pluralize w).toList, NameChar c :=
  forall_pluralize nameChar_endings.2.1 nameChar_endings.2.2.1 nameChar_endings.2.2.2.1 h

theorem nameChar_singularize {w : String} (h : ∀ c ∈ w.toList, NameChar c) :
    ∀ c ∈ (singularize w).toList, NameChar c :=
  forall_singularize nameChar_endings.2.2.2.2 h

end Naming

end SchemaConcord
