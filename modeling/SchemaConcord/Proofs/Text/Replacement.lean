import SchemaConcord.Proofs.Text.Edit

/-!
# Words replaced

A word that stands in a text once is replaced there and nowhere else (`replace_of_sole`). In general a text in which a
word is replaced is a pattern with the image in its open places, the same pattern for every image (`exists_pattern`),
and what reads such a text without telling the characters of the image apart reads the pattern (`takeWhile_fill`).
-/

namespace SchemaConcord.Text

/-! ## Occurrences -/

/-- The number of places where a word begins. -/
def occurrences (word cs : List Char) : Nat := cs.tails.countP word.isPrefixOf

theorem occurrences_cons (word : List Char) (c : Char) (cs : List Char) :
    occurrences word (c :: cs) = occurrences word cs + if word.isPrefixOf (c :: cs) then 1 else 0 := by
  rw [occurrences, List.tails, List.countP_cons, occurrences]

theorem occurrences_le_append (word before cs : List Char) : occurrences word cs ≤ occurrences word (before ++ cs) := by
  induction before with
  | nil => exact Nat.le_refl _
  | cons c before ih =>
    rw [List.cons_append, occurrences_cons]
    exact Nat.le_add_right_of_le ih

variable {word : List Char}

theorem isPrefixOf_append (word rest : List Char) : word.isPrefixOf (word ++ rest) = true :=
  List.isPrefixOf_iff_prefix.mpr (List.prefix_append ..)

theorem replaceFrom_skip (word image : List Char) (n : Nat) (cs : List Char) :
    replaceFrom word image n cs = replaceFrom word image 0 (cs.drop n) := by
  induction cs generalizing n with
  | nil => rw [List.drop_nil, replaceFrom, replaceFrom]
  | cons c cs ih =>
    cases n with
    | zero => rfl
    | succ n => rw [replaceFrom, ih, List.drop_succ_cons]

theorem replaceFrom_of_absent {cs : List Char} (h : occurrences word cs = 0) (image : List Char) :
    replaceFrom word image 0 cs = cs := by
  induction cs with
  | nil => rfl
  | cons c cs ih =>
    rw [occurrences_cons, Nat.add_eq_zero_iff] at h
    have hhead : ¬word.isPrefixOf (c :: cs) = true := fun hpre => by simp [hpre] at h
    rw [replaceFrom, if_neg hhead, ih h.1]

theorem replaceFrom_word (hne : word ≠ []) (image rest : List Char) :
    replaceFrom word image 0 (word ++ rest) = image ++ replaceFrom word image 0 rest := by
  obtain ⟨w, ws, rfl⟩ := List.exists_cons_of_ne_nil hne
  rw [List.cons_append, replaceFrom, ← List.cons_append, if_pos (isPrefixOf_append ..), replaceFrom_skip,
    List.length_cons, Nat.add_sub_cancel, List.drop_left]

/-- The only occurrence of a word is replaced, and all around it stays. -/
theorem replace_of_sole (hne : word ≠ []) {before after : List Char}
    (h : occurrences word (before ++ (word ++ after)) = 1) (image : List Char) :
    replace word image (before ++ (word ++ after)) = before ++ (image ++ after) := by
  have hone : 1 + occurrences word after ≤ occurrences word (word ++ after) := by
    obtain ⟨w, ws, rfl⟩ := List.exists_cons_of_ne_nil hne
    rw [List.cons_append, occurrences_cons, ← List.cons_append, if_pos (isPrefixOf_append ..), Nat.add_comm]
    exact Nat.add_le_add_right (occurrences_le_append ..) 1
  rw [replace, if_neg (by simpa using hne)]
  induction before with
  | nil =>
    rw [List.nil_append] at h
    rw [List.nil_append, replaceFrom_word hne, replaceFrom_of_absent (by omega), List.nil_append]
  | cons c before ih =>
    -- an occurrence at `c` would be a second one
    have hrest := occurrences_le_append word before (word ++ after)
    rw [List.cons_append, occurrences_cons] at h
    have hhead : ¬word.isPrefixOf (c :: (before ++ (word ++ after))) = true := by
      intro hpre
      rw [if_pos hpre] at h
      omega
    rw [if_neg hhead] at h
    rw [List.cons_append, replaceFrom, if_neg hhead, ih h, List.cons_append]

/-! ## Patterns -/

/-- The text of a pattern: `image` stands in its open places. -/
def fill (image : List Char) (t : List (Option Char)) : List Char :=
  t.flatMap fun
    | some c => [c]
    | none => image

section
variable (image : List Char)

theorem fill_some (c : Char) (t : List (Option Char)) : fill image (some c :: t) = c :: fill image t := rfl

theorem fill_none (t : List (Option Char)) : fill image (none :: t) = image ++ fill image t := rfl

theorem fill_append (t u : List (Option Char)) : fill image (t ++ u) = fill image t ++ fill image u :=
  List.flatMap_append

theorem fill_map_some (cs : List Char) : fill image (cs.map some) = cs := by
  induction cs with
  | nil => rfl
  | cons c cs ih => rw [List.map_cons, fill_some, ih]

end

/-- What a word is replaced by does not matter to the places. -/
theorem exists_pattern (word cs : List Char) : ∃ t, ∀ image, replace word image cs = fill image t := by
  have hrun : ∀ n, ∃ t, ∀ image, replaceFrom word image n cs = fill image t := by
    induction cs with
    | nil => exact fun n => ⟨[], fun image => rfl⟩
    | cons c cs ih =>
      intro n
      cases n with
      | succ n =>
        obtain ⟨t, ht⟩ := ih n
        exact ⟨t, ht⟩
      | zero =>
        by_cases hpre : word.isPrefixOf (c :: cs) = true
        · obtain ⟨t, ht⟩ := ih (word.length - 1)
          refine ⟨none :: t, fun image => ?_⟩
          rw [replaceFrom, if_pos hpre, ht, fill_none]
        · obtain ⟨t, ht⟩ := ih 0
          refine ⟨some c :: t, fun image => ?_⟩
          rw [replaceFrom, if_neg hpre, ht, fill_some]
  by_cases hword : word.isEmpty = true
  · refine ⟨cs.map some, fun image => ?_⟩
    rw [replace, if_pos hword, fill_map_some]
  · obtain ⟨t, ht⟩ := hrun 0
    refine ⟨t, fun image => ?_⟩
    rw [replace, if_neg hword, ht]

variable {image other : List Char} {t : List (Option Char)}

theorem fill_of_closed (h : none ∉ t) (image other : List Char) : fill image t = fill other t := by
  induction t with
  | nil => rfl
  | cons o t ih =>
    rw [List.mem_cons, not_or] at h
    cases o with
    | none => exact absurd rfl h.1
    | some c => rw [fill_some, fill_some, ih h.2]

theorem closed_of_fill {c d : Char} (hne : c ≠ d) (h : fill [c] t = fill [d] t) : none ∉ t := by
  induction t with
  | nil => exact List.not_mem_nil
  | cons o t ih =>
    cases o with
    | none => exact absurd (List.cons.inj h).1 hne
    | some e =>
      rw [List.mem_cons, not_or]
      exact ⟨nofun, ih (List.cons.inj h).2⟩

theorem mem_fill (h : none ∈ t) {c : Char} (hc : c ∈ image) : c ∈ fill image t :=
  List.mem_flatMap.mpr ⟨none, h, hc⟩

theorem fill_eq_nil_iff (hne : image ≠ []) : fill image t = [] ↔ t = [] := by
  cases t with
  | nil => exact ⟨fun _ => rfl, fun _ => rfl⟩
  | cons o t =>
    refine ⟨fun h => ?_, nofun⟩
    cases o with
    | none => exact absurd (List.append_eq_nil_iff.mp h).1 hne
    | some c => exact nomatch h

section
variable {p : Char → Bool} (hp : ∀ c ∈ image, p c = true)
include hp

theorem takeWhile_fill (t : List (Option Char)) :
    (fill image t).takeWhile p = fill image (t.takeWhile (Option.all p)) ∧
      (fill image t).dropWhile p = fill image (t.dropWhile (Option.all p)) := by
  induction t with
  | nil => exact ⟨rfl, rfl⟩
  | cons o t ih =>
    cases o with
    | none =>
      rw [fill_none, List.takeWhile_append_of_pos hp, List.dropWhile_append_of_pos hp, ih.1, ih.2]
      exact ⟨rfl, rfl⟩
    | some c =>
      rw [fill_some, List.takeWhile_cons, List.dropWhile_cons, List.takeWhile_cons, List.dropWhile_cons,
        Option.all_some]
      cases p c with
      | false => exact ⟨rfl, rfl⟩
      | true => exact ⟨congrArg (c :: ·) ih.1, ih.2⟩

end

end SchemaConcord.Text
