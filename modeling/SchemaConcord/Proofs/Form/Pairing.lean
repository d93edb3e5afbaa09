import Mathlib.Data.Option.Basic
import SchemaConcord.Proofs.Naming.Style

/-!
# Forms and their tables

The table of a form has the letters of one of the spellings that the form's name stands for, and of no table the letters
of an earlier one (`Snapshot.formTable?_alike`). Only ASCII letters and digits are compared: what else a name is made of
does not keep a form and a table apart.
-/

namespace SchemaConcord

open Text Naming

/-! ## Letters of a name -/

namespace Text

/-- What is left of a name where neither case nor marks count: its letters and digits, of any script. -/
def letters (s : String) : List Char := (lower s.toList).filter isAlphanumeric

/-- A name with no letters and digits but those of ASCII. -/
def AsciiLettered (s : String) : Prop := ∀ c ∈ letters s, isAscii c = true

instance (s : String) : Decidable (AsciiLettered s) :=
  decidable_of_iff ((letters s).all isAscii = true) List.all_eq_true

/-- The compact spelling has those of the letters that are ASCII. -/
theorem toList_compact (s : String) : (compact s).toList = (letters s).filter isSmallAscii := by
  have hkeep : ∀ c, (isSmallAscii c && isAlphanumeric c) = isSmallAscii c := by
    intro c
    by_cases hplain : isSmallAscii c = true
    · rw [hplain, (smallLetter_of_ascii hplain).1]
      rfl
    · rw [Bool.eq_false_iff.mpr hplain, Bool.false_and]
  rw [compact, onChars, String.toList_ofList, letters, List.filter_filter]
  exact List.filter_congr fun c _ => (hkeep c).symm

theorem compact_of_letters {s v : String} (h : letters s = letters v) : compact s = compact v := by
  rw [← String.toList_inj, toList_compact, toList_compact, h]

theorem letters_lowercase (s : String) : letters (lowercase s) = letters s := by
  rw [letters, lowercase, String.toList_ofList, lower_of_small (small_lower s.toList), letters]

theorem toList_compact_of_ascii {s : String} (h : AsciiLettered s) : (compact s).toList = letters s := by
  rw [toList_compact, List.filter_eq_self]
  intro c hc
  obtain ⟨hlower, halphanumeric⟩ := List.mem_filter.mp hc
  have hupper := not_isAsciiUpper_of_small (small_lower s.toList c hlower)
  rw [isAlphanumeric, if_pos (h c hc), isAsciiLetter, hupper, Bool.false_or] at halphanumeric
  exact halphanumeric

theorem letters_of_compact {s v : String} (hs : AsciiLettered s) (hv : AsciiLettered v) (h : compact s = compact v) :
    letters s = letters v := by
  rw [← toList_compact_of_ascii hs, ← toList_compact_of_ascii hv, h]

/-! ## Letters of the spellings -/

theorem isAlphanumeric_medial (c : Char) : isAlphanumeric (medial c) = isAlphanumeric c := by
  unfold medial
  split
  · next h =>
    rw [h]
    decide +kernel
  · rfl

/-- A character that is ASCII in lowercase, if it is a letter or digit at all. -/
def AsciiSpelled (c : Char) : Prop := ∀ d ∈ lowerImage c, isAlphanumeric d = true → isAscii d = true

theorem asciiLettered_iff {s : String} : AsciiLettered s ↔ ∀ c ∈ s.toList, AsciiSpelled c := by
  have hmedial : AsciiLettered s ↔ ∀ d ∈ (lower s.toList).map medial, isAlphanumeric d = true → isAscii d = true := by
    simp only [AsciiLettered, letters, List.mem_filter, and_imp, List.forall_mem_map, isAlphanumeric_medial,
      isAscii_medial]
  rw [hmedial, map_medial_lower]
  simp only [List.mem_flatMap, forall_exists_index, and_imp]
  exact ⟨fun h c hc d hd => h d c hc hd, fun h d c hc hd => h c hc d hd⟩

theorem asciiSpelled_of_ascii {c : Char} (h : isAscii c = true) : AsciiSpelled c := by
  have hcode : c.toNat < 128 := of_decide_eq_true h
  intro d hd _
  rw [lowerImage, if_neg (by omega), if_neg (by omega), lowerChar, if_pos h, List.mem_singleton] at hd
  rw [hd, isAscii_medial, isAscii_asciiLower]
  exact h

section
variable {name : String} (h : AsciiLettered name)

include h

theorem asciiLettered_snakeCase : AsciiLettered (snakeCase name) := by
  have hunder : AsciiSpelled '_' := asciiSpelled_of_ascii (by decide)
  have hchars := asciiLettered_iff.mp h
  have hmarked := forall_squeeze (q := isSeparator) (List.forall_mem_singleton.mpr hunder)
    (forall_markHumps hunder (forall_markAcronyms hunder (forall_trim (q := isBlank) hchars) false) false)
  rw [← String.toList_ofList (l := squeeze _ _ _)] at hmarked
  have hlower := asciiLettered_iff.mpr hmarked
  rw [AsciiLettered, ← letters_lowercase, lowercase, String.toList_ofList] at hlower
  exact hlower

theorem asciiLettered_spellings : ∀ x ∈ spellings name, AsciiLettered x := by
  have hchars := asciiLettered_iff.mp h
  have hsingular : AsciiLettered (singularize name) :=
    asciiLettered_iff.mpr (forall_singularize (asciiSpelled_of_ascii (by decide)) hchars)
  have hplural : AsciiLettered (pluralize name) :=
    asciiLettered_iff.mpr (forall_pluralize (asciiSpelled_of_ascii (by decide)) (asciiSpelled_of_ascii (by decide))
      (asciiSpelled_of_ascii (by decide)) hchars)
  simp [spellings, h, hsingular, hplural]

end

end Text

/-! ## Words around a name -/

/-- `core` is `name` without the words before and after it that say what a form does, as many as there are. -/
def Stripped (name core : String) : Prop :=
  ∃ heads inner tails : List String,
    (splitChar '_' name).filter (!·.isEmpty) = heads ++ (inner ++ tails) ∧ core = joinWith "_" inner ∧
      (∀ w ∈ heads, w ∈ formHeads) ∧ (∀ w ∈ tails, w ∈ formTails) ∧
        (∀ w ∈ inner.head?, w ∉ formHeads) ∧ ∀ w ∈ inner.getLast?, w ∉ formTails

theorem stripped_stripAffixes (name : String) : Stripped name (stripAffixes name) := by
  have hstop : ∀ (words parts : List String), ∀ w ∈ (parts.dropWhile words.contains).head?, w ∉ words := by
    intro words parts w hw hmem
    have hnot := List.head?_dropWhile_not words.contains parts
    rw [hw] at hnot
    simp [hmem] at hnot
  have hrun : ∀ (words parts : List String), ∀ w ∈ parts.takeWhile words.contains, w ∈ words := by
    intro words parts w hw
    simpa using List.mem_takeWhile_imp hw
  let parts := (splitChar '_' name).filter (!·.isEmpty)
  let rest := parts.dropWhile formHeads.contains
  have hrest : rest = (rest.reverse.dropWhile formTails.contains).reverse ++
      (rest.reverse.takeWhile formTails.contains).reverse := by
    rw [← List.reverse_append, List.takeWhile_append_dropWhile, List.reverse_reverse]
  refine ⟨parts.takeWhile formHeads.contains, _, (rest.reverse.takeWhile formTails.contains).reverse, ?_, rfl,
    hrun formHeads parts, ?_, ?_, ?_⟩
  · show parts = _
    rw [← hrest, List.takeWhile_append_dropWhile]
  · intro w hw
    exact hrun formTails rest.reverse w (List.mem_reverse.mp hw)
  · intro w hw
    apply hstop formHeads parts w
    show w ∈ rest.head?
    rw [hrest, List.head?_append, hw]
    rfl
  · intro w hw
    rw [List.getLast?_reverse] at hw
    exact hstop formTails rest.reverse w hw

theorem Stripped.asciiLettered {name core : String} (hcore : Stripped name core) (h : AsciiLettered name) :
    AsciiLettered core := by
  obtain ⟨heads, inner, tails, hparts, rfl, -⟩ := hcore
  rw [asciiLettered_iff, joinWith, String.toList_intercalate]
  refine forall_intercalate (List.forall_mem_singleton.mpr (asciiSpelled_of_ascii (by decide))) ?_
  refine List.forall_mem_map.mpr fun w hw => ?_
  have hpart : w ∈ (splitChar '_' name).filter (!·.isEmpty) := by
    rw [hparts]
    simp [hw]
  obtain ⟨cs, hcs, rfl⟩ := List.mem_map.mp (List.mem_filter.mp hpart).1
  rw [String.toList_ofList]
  exact forall_splitAt (asciiLettered_iff.mp h) cs hcs

namespace Snapshot

variable {s : Snapshot} {t : Table} {form : String}

theorem spelled?_eq_some {x : String} (h : s.spelled? x = some t) :
    t ∈ s.tables ∧ (lowercase t.name = x ∨ compact t.name = compact x) := by
  have hfound : ∀ {p : Table → Bool}, s.tables.reverse.find? p = some t → t ∈ s.tables ∧ p t = true := fun hfind =>
    ⟨List.mem_reverse.mp (List.mem_of_find?_eq_some hfind), List.find?_some hfind⟩
  unfold spelled? at h
  rcases (Option.orElse_eq_some _ _ _).mp h with hname | ⟨-, hcompact⟩
  · exact (hfound hname).imp_right fun heq => .inl (of_decide_eq_true heq)
  · exact (hfound hcompact).imp_right fun heq => .inr (of_decide_eq_true heq)

theorem spelled?_eq_none {x : String} (h : s.spelled? x = none) : ∀ u ∈ s.tables, compact u.name ≠ compact x := by
  intro u hu
  have hnone := ((Option.orElse_eq_none _ _).mp h).2
  rw [List.find?_eq_none] at hnone
  simpa using hnone u (List.mem_reverse.mpr hu)

/-- The spellings of a form's name come in one row, those of its core last. -/
theorem formTable?_eq_some (h : s.formTable? form = some t) :
    (spellings (snakeCase form) ++ spellings (stripAffixes (snakeCase form))).findSome? s.spelled? = some t := by
  unfold formTable? at h
  dsimp only at h
  rw [List.findSome?_append]
  rcases (Option.orElse_eq_some _ _ _).mp h with hname | ⟨hnone, hcore⟩
  · rw [hname]
    rfl
  · rw [hnone, Option.none_or]
    split at hcore
    · cases hcore
    · exact hcore

/-- A form goes with a table that has the ASCII letters and digits of a spelling of the form's name, or of what is left
of it without the words around it, and no table has those of an earlier spelling. Where all letters are ASCII, or the
spelling is the table's name in lowercase, letters and digits of any script agree. -/
theorem formTable?_alike (h : s.formTable? form = some t) :
    t ∈ s.tables ∧ ∃ core before x after,
      Stripped (snakeCase form) core ∧
        spellings (snakeCase form) ++ spellings core = before ++ x :: after ∧
          (∀ y ∈ before, ∀ u ∈ s.tables, compact u.name ≠ compact y ∧ letters u.name ≠ letters y) ∧
            compact t.name = compact x ∧
              (lowercase t.name = x ∨ (AsciiLettered form ∧ AsciiLettered t.name) → letters t.name = letters x) := by
  obtain ⟨before, x, after, hrow, hfound, hbefore⟩ := List.findSome?_eq_some_iff.mp (formTable?_eq_some h)
  obtain ⟨hmem, hspelled⟩ := spelled?_eq_some hfound
  have hstripped := stripped_stripAffixes (snakeCase form)
  have hlower : lowercase t.name = x → letters t.name = letters x := by
    rintro rfl
    exact (letters_lowercase t.name).symm
  have hcompact : compact t.name = compact x := by
    rcases hspelled with hname | hcompact
    · exact compact_of_letters (hlower hname)
    · exact hcompact
  refine ⟨hmem, _, before, x, after, hstripped, hrow, ?_, hcompact, ?_⟩
  · intro y hy u hu
    have hother := spelled?_eq_none (hbefore y hy) u hu
    exact ⟨hother, fun heq => hother (compact_of_letters heq)⟩
  · rintro (hname | ⟨hform, htable⟩)
    · exact hlower hname
    · have hsnake := asciiLettered_snakeCase hform
      have hx : AsciiLettered x := by
        have hall := List.forall_mem_append.mpr
          ⟨asciiLettered_spellings hsnake, asciiLettered_spellings (hstripped.asciiLettered hsnake)⟩
        apply hall
        rw [hrow]
        simp
      exact letters_of_compact htable hx hcompact

/-- A form that edits an order goes with the orders. Of names without an ASCII letter nothing is compared, so that a form
for gardens goes with the houses. -/
theorem formTable?_alike_orders :
    (ofTable "orders").formTable? "EditOrderForm" = some ⟨"orders", [], none, []⟩ ∧
      (∃ core before x after, Stripped (snakeCase "EditOrderForm") core ∧
        spellings (snakeCase "EditOrderForm") ++ spellings core = before ++ x :: after ∧ letters "orders" = letters x) ∧
      (ofTable "дом").formTable? "сад" = some ⟨"дом", [], none, []⟩ ∧
      ∀ x ∈ spellings (snakeCase "сад"), letters x ≠ letters "дом" := by
  have hfound : (ofTable "orders").formTable? "EditOrderForm" = some ⟨"orders", [], none, []⟩ := by decide +kernel
  obtain ⟨-, core, before, x, after, hcore, hrow, -, -, halike⟩ := formTable?_alike hfound
  refine ⟨hfound, ⟨core, before, x, after, hcore, hrow, halike (.inr ⟨?_, ?_⟩)⟩, ?_, ?_⟩ <;> decide +kernel

end Snapshot

end SchemaConcord
