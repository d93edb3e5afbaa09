import Mathlib.Data.List.TakeWhile
import SchemaConcord.Proofs.Lists
import SchemaConcord.Text.Edit

/-!
# Texts cut and joined

What cutting, trimming and collapsing do to the characters of a text, texts that they leave as they are, the endings and
beginnings of texts, and their order.
-/

namespace SchemaConcord.Text

/-! ## Runs -/

theorem forall_head? {p : Char → Prop} {c : Char} (h : p c) {cs : List Char} : ∀ d ∈ (c :: cs).head?, p d := by
  rintro d ⟨⟩
  exact h

/-- A run of a class ends where a character follows that is not of the class. -/
theorem takeWhile_run {p : Char → Bool} {run rest : List Char} (hrun : ∀ c ∈ run, p c = true)
    (hrest : ∀ c ∈ rest.head?, p c = false) :
    (run ++ rest).takeWhile p = run ∧ (run ++ rest).dropWhile p = rest := by
  rw [List.takeWhile_append_of_pos hrun, List.dropWhile_append_of_pos hrun]
  cases rest with
  | nil => exact ⟨List.append_nil run, rfl⟩
  | cons c rest =>
    have hc := hrest c rfl
    rw [List.takeWhile_cons_of_neg (by simp [hc]), List.dropWhile_cons_of_neg (by simp [hc]), List.append_nil]
    exact ⟨rfl, rfl⟩

/-! ## Pieces -/

theorem splitAt_free {p : Char → Bool} {cs : List Char} (h : ∀ c ∈ cs, p c = false) : splitAt p cs = [cs] := by
  induction cs with
  | nil => rfl
  | cons c cs ih =>
    rw [splitAt, h c (List.mem_cons_self ..), if_neg Bool.false_ne_true, ih fun d hd => h d (List.mem_cons_of_mem c hd)]

theorem splitAt_ne_nil (p : Char → Bool) (cs : List Char) : splitAt p cs ≠ [] := by
  cases cs with
  | nil => simp [splitAt]
  | cons c cs =>
    rw [splitAt]
    split
    · simp
    · split <;> simp

theorem splitAt_last {p : Char → Bool} {mark : Char} (hmark : p mark = true) {last : List Char}
    (hlast : ∀ c ∈ last, p c = false) (cs : List Char) : splitAt p (cs ++ mark :: last) = splitAt p cs ++ [last] := by
  induction cs with
  | nil => simp [splitAt, hmark, splitAt_free hlast]
  | cons c cs ih =>
    obtain ⟨piece, pieces, hpieces⟩ := List.exists_cons_of_ne_nil (splitAt_ne_nil p cs)
    rw [List.cons_append, splitAt, splitAt, ih, hpieces]
    split <;> rfl

/-- Of a text that ends in a word without separators, the last piece ends in the word. -/
theorem splitAt_append {p : Char → Bool} {tail : List Char} (ht : ∀ c ∈ tail, p c = false) (cs : List Char) :
    ∃ pieces last, splitAt p (cs ++ tail) = pieces ++ [last ++ tail] := by
  induction cs with
  | nil =>
    refine ⟨[], [], ?_⟩
    rw [List.nil_append, splitAt_free ht]
    rfl
  | cons c cs ih =>
    obtain ⟨pieces, last, hsplit⟩ := ih
    rw [List.cons_append, splitAt, hsplit]
    by_cases hc : p c = true
    · rw [if_pos hc]
      exact ⟨[] :: pieces, last, rfl⟩
    · rw [if_neg hc]
      cases pieces with
      | nil => exact ⟨[], c :: last, rfl⟩
      | cons x pieces => exact ⟨(c :: x) :: pieces, last, rfl⟩

theorem not_mem_of_mem_splitAt {p : Char → Bool} {cs piece : List Char} (h : piece ∈ splitAt p cs) :
    ∀ c ∈ piece, p c = false := by
  induction cs generalizing piece with
  | nil =>
    rw [splitAt, List.mem_singleton] at h
    rw [h]
    exact fun c hc => nomatch hc
  | cons d cs ih =>
    rw [splitAt] at h
    by_cases hd : p d = true
    · rw [if_pos hd] at h
      rcases List.mem_cons.mp h with rfl | h
      · exact fun c hc => nomatch hc
      · exact ih h
    · rw [if_neg hd] at h
      have hfalse : p d = false := Bool.eq_false_iff.mpr hd
      -- The character joins the first of the later pieces.
      cases hs : splitAt p cs with
      | nil =>
        rw [hs] at h
        intro c hc
        rw [List.mem_singleton.mp h] at hc
        rw [List.mem_singleton.mp hc]
        exact hfalse
      | cons first pieces =>
        rw [hs] at h ih
        rcases List.mem_cons.mp h with rfl | h
        · intro c hc
          rcases List.mem_cons.mp hc with rfl | hc
          · exact hfalse
          · exact ih (List.mem_cons_self ..) c hc
        · exact ih (List.mem_cons_of_mem first h)

theorem splitAt_mark {p : Char → Bool} {mark : Char} (hmark : p mark = true) {piece : List Char}
    (hpiece : ∀ c ∈ piece, p c = false) (rest : List Char) :
    splitAt p (piece ++ mark :: rest) = piece :: splitAt p rest := by
  induction piece with
  | nil => rw [List.nil_append, splitAt, if_pos hmark]
  | cons c piece ih =>
    rw [List.cons_append, splitAt, hpiece c (List.mem_cons_self ..), if_neg Bool.false_ne_true,
      ih fun d hd => hpiece d (List.mem_cons_of_mem c hd)]

theorem splitAt_intercalate {mark : Char} {pieces : List (List Char)} (hne : pieces ≠ [])
    (h : ∀ piece ∈ pieces, mark ∉ piece) : splitAt (· == mark) ([mark].intercalate pieces) = pieces := by
  have hfree : ∀ piece ∈ pieces, ∀ c ∈ piece, (c == mark) = false :=
    fun piece hpiece c hc => beq_false_of_ne fun heq => h piece hpiece (heq ▸ hc)
  clear h
  induction pieces with
  | nil => exact absurd rfl hne
  | cons piece pieces ih =>
    have hpiece := hfree piece (List.mem_cons_self ..)
    cases pieces with
    | nil => rw [List.intercalate_singleton, splitAt_free hpiece]
    | cons next pieces =>
      rw [List.intercalate_cons_cons, List.append_assoc, List.singleton_append,
        splitAt_mark (p := (· == mark)) (beq_self_eq_true mark) hpiece,
        ih (by simp) fun p hp => hfree p (List.mem_cons_of_mem piece hp)]

theorem intercalate_cons (separator piece : List Char) (pieces : List (List Char)) :
    separator.intercalate (piece :: pieces) = piece ++ pieces.flatMap (separator ++ ·) := by
  induction pieces generalizing piece with
  | nil => rw [List.intercalate_singleton, List.flatMap_nil, List.append_nil]
  | cons next pieces ih =>
    rw [List.intercalate_cons_cons, ih, List.flatMap_cons, List.append_assoc, List.append_assoc]

/-- Cut at the mark that joins them, pieces after the first keep the blank after the mark. -/
theorem splitAt_spaced {mark : Char} (hblank : mark ≠ ' ') {piece : List Char} {pieces : List (List Char)}
    (h : ∀ p ∈ piece :: pieces, mark ∉ p) :
    splitAt (· == mark) ([mark, ' '].intercalate (piece :: pieces)) = piece :: pieces.map (' ' :: ·) := by
  have hjoined : [mark, ' '].intercalate (piece :: pieces) = [mark].intercalate (piece :: pieces.map (' ' :: ·)) := by
    rw [intercalate_cons, intercalate_cons, List.flatMap_map]
    rfl
  rw [hjoined, splitAt_intercalate (List.cons_ne_nil _ _)]
  intro p hp
  rcases List.mem_cons.mp hp with rfl | hp
  · exact h p (List.mem_cons_self ..)
  · obtain ⟨q, hq, rfl⟩ := List.mem_map.mp hp
    rw [List.mem_cons, not_or]
    exact ⟨hblank, h q (List.mem_cons_of_mem piece hq)⟩

/-- A joined text begins with the first piece and ends with the last. -/
theorem intercalate_ends (separator : List Char) {pieces : List (List Char)} (hne : pieces ≠ []) :
    (∃ more, separator.intercalate pieces = pieces.head hne ++ more) ∧
      ∃ front, separator.intercalate pieces = front ++ pieces.getLast hne := by
  induction pieces with
  | nil => exact absurd rfl hne
  | cons piece pieces ih =>
    cases pieces with
    | nil =>
      rw [List.intercalate_singleton]
      exact ⟨⟨[], (List.append_nil _).symm⟩, [], rfl⟩
    | cons next pieces =>
      obtain ⟨-, front, hfront⟩ := ih (List.cons_ne_nil next pieces)
      rw [List.intercalate_cons_cons, List.append_assoc]
      refine ⟨⟨_, rfl⟩, piece ++ (separator ++ front), ?_⟩
      rw [List.getLast_cons (List.cons_ne_nil next pieces), hfront, List.append_assoc, List.append_assoc]

/-! ## Texts without separators -/

theorem squeeze_of_free {p : Char → Bool} {image cs : List Char} (h : ∀ c ∈ cs, p c = false) :
    squeeze p image cs = cs := by
  have hrun : ∀ inside, squeezeFrom p image inside cs = cs := by
    induction cs with
    | nil => exact fun _ => rfl
    | cons c cs ih =>
      intro inside
      rw [squeezeFrom, h c (List.mem_cons_self ..), if_neg Bool.false_ne_true,
        ih fun d hd => h d (List.mem_cons_of_mem c hd)]
  exact hrun false

theorem trim_of_free {p : Char → Bool} {cs : List Char} (h : ∀ c ∈ cs, p c = false) : trim p cs = cs := by
  have hdrop : ∀ {l : List Char}, (∀ c ∈ l, p c = false) → l.dropWhile p = l := by
    intro l hl
    cases l with
    | nil => rfl
    | cons c l => rw [List.dropWhile_cons_of_neg (by simp [hl c (List.mem_cons_self ..)])]
  rw [trim, trimLeft, hdrop h, trimRight, hdrop fun c hc => h c (List.mem_reverse.mp hc), List.reverse_reverse]

/-- Trimming takes off what encloses a text whose ends are not of the class. -/
theorem trim_enclosed {p : Char → Bool} {before cs after : List Char} (hbefore : ∀ c ∈ before, p c = true)
    (hafter : ∀ c ∈ after, p c = true) (hhead : ∀ c ∈ cs.head?, p c = false)
    (hlast : ∀ c ∈ cs.getLast?, p c = false) : trim p (before ++ (cs ++ after)) = cs := by
  have hkept : ∀ {l : List Char}, (∀ c ∈ l.head?, p c = false) → l.dropWhile p = l := by
    intro l hl
    cases l with
    | nil => rfl
    | cons c l => exact List.dropWhile_cons_of_neg (by simp [hl c rfl])
  have hend : after.dropWhile p = [] := by
    rw [← List.append_nil after, List.dropWhile_append_of_pos hafter]
    rfl
  rw [trim, trimLeft, List.dropWhile_append_of_pos hbefore]
  cases cs with
  | nil => rw [List.nil_append, hend]; rfl
  | cons c cs =>
    have hstart : ∀ d ∈ (c :: cs ++ after).head?, p d = false := hhead
    rw [hkept hstart, trimRight, List.reverse_append,
      List.dropWhile_append_of_pos fun d hd => hafter d (List.mem_reverse.mp hd),
      hkept fun d hd => hlast d (List.head?_reverse ▸ hd), List.reverse_reverse]

/-! ## Characters of the outcome -/

section
variable {p : Char → Prop} {cs : List Char}

theorem forall_squeeze {q : Char → Bool} {image : List Char} (himage : ∀ c ∈ image, p c) (h : ∀ c ∈ cs, p c) :
    ∀ c ∈ squeeze q image cs, p c := by
  have hrun : ∀ inside, ∀ c ∈ squeezeFrom q image inside cs, p c := by
    induction cs with
    | nil => simp [squeezeFrom]
    | cons d cs ih =>
      have ih := ih fun c hc => h c (List.mem_cons_of_mem d hc)
      intro inside c hc
      unfold squeezeFrom at hc
      split at hc
      · rcases List.mem_append.mp hc with hc | hc
        · split at hc
          · cases hc
          · exact himage c hc
        · exact ih _ c hc
      · rcases List.mem_cons.mp hc with rfl | hc
        · exact h c (List.mem_cons_self ..)
        · exact ih _ c hc
  exact hrun false

theorem forall_intercalate {pieces : List (List Char)} (h : ∀ c ∈ cs, p c)
    (hpieces : ∀ piece ∈ pieces, ∀ c ∈ piece, p c) : ∀ c ∈ cs.intercalate pieces, p c := by
  cases pieces with
  | nil => exact fun c hc => nomatch hc
  | cons piece pieces =>
    rw [intercalate_cons]
    intro c hc
    rcases List.mem_append.mp hc with hc | hc
    · exact hpieces piece (List.mem_cons_self ..) c hc
    · obtain ⟨next, hnext, hc⟩ := List.mem_flatMap.mp hc
      rcases List.mem_append.mp hc with hc | hc
      · exact h c hc
      · exact hpieces next (List.mem_cons_of_mem piece hnext) c hc

theorem forall_trim {q : Char → Bool} (h : ∀ c ∈ cs, p c) : ∀ c ∈ trim q cs, p c := by
  intro c hc
  unfold trim trimRight trimLeft at hc
  rw [List.mem_reverse] at hc
  have hc := List.mem_reverse.mp ((List.dropWhile_sublist _).subset hc)
  exact h c ((List.dropWhile_sublist _).subset hc)

theorem forall_splitAt {q : Char → Bool} (h : ∀ c ∈ cs, p c) : ∀ piece ∈ splitAt q cs, ∀ c ∈ piece, p c := by
  induction cs with
  | nil => simp [splitAt]
  | cons d cs ih =>
    have ih := ih fun c hc => h c (List.mem_cons_of_mem d hc)
    have hd := h d (List.mem_cons_self ..)
    unfold splitAt
    split
    · simpa using ih
    · cases hsplit : splitAt q cs with
      | nil => simpa using hd
      | cons piece pieces =>
        rw [hsplit] at ih
        simp only [List.mem_cons, forall_eq_or_imp] at ih ⊢
        exact ⟨⟨hd, ih.1⟩, ih.2⟩

end

/-! ## Occurrences -/

theorem occursIn_of_not_mem {c : Char} {word cs : List Char} (hword : c ∈ word) (h : c ∉ cs) :
    occursIn word cs = false := by
  induction cs with
  | nil => cases word with
    | nil => cases hword
    | cons w ws => rfl
  | cons d cs ih =>
    rw [occursIn, ih fun hc => h (List.mem_cons_of_mem d hc), Bool.or_false, Bool.eq_false_iff]
    intro hhead
    exact h ((List.isPrefixOf_iff_prefix.mp hhead).subset hword)

/-! ## Endings -/

theorem hasTail_iff {s tail : String} : hasTail s tail = true ↔ ∃ stem, s = stem ++ tail := by
  unfold hasTail
  rw [List.isSuffixOf_iff_suffix]
  constructor
  · rintro ⟨stem, h⟩
    refine ⟨String.ofList stem, String.toList_inj.mp ?_⟩
    rw [String.toList_append, String.toList_ofList, h]
  · rintro ⟨stem, rfl⟩
    exact ⟨stem.toList, String.toList_append.symm⟩

/-- A common ending does not count. -/
theorem hasTail_append (w u v : String) : hasTail (w ++ v) (u ++ v) = hasTail w u := by
  rw [Bool.eq_iff_iff, hasTail_iff, hasTail_iff]
  constructor
  · rintro ⟨stem, h⟩
    refine ⟨stem, ?_⟩
    rw [← String.append_assoc] at h
    exact (String.append_left_inj v).mp h
  · rintro ⟨stem, rfl⟩
    exact ⟨stem, String.append_assoc⟩

theorem getLast?_of_hasTail {s tail : String} {c : Char} (h : hasTail s tail = true)
    (hc : tail.toList.getLast? = some c) : s.toList.getLast? = some c := by
  obtain ⟨l, hl⟩ := List.isSuffixOf_iff_suffix.mp h
  rw [← hl, List.getLast?_append, hc]
  rfl

/-- An ending of an ending is one. -/
theorem hasTail_trans {s tail last : String} (h : hasTail s tail = true) (hlast : hasTail tail last = true) :
    hasTail s last = true := by
  obtain ⟨stem, rfl⟩ := hasTail_iff.mp h
  obtain ⟨stem', rfl⟩ := hasTail_iff.mp hlast
  exact hasTail_iff.mpr ⟨stem ++ stem', String.append_assoc.symm⟩

theorem hasTailIn_iff {s : String} {tails : List String} :
    hasTailIn s tails = true ↔ ∃ tail ∈ tails, hasTail s tail = true := by
  rw [hasTailIn, List.any_eq_true]

theorem hasTailIn_append (w v : String) (tails : List String) :
    hasTailIn (w ++ v) (tails.map (· ++ v)) = hasTailIn w tails := by
  unfold hasTailIn
  rw [List.any_map]
  exact congrArg (tails.any ·) (funext fun u => hasTail_append w u v)

theorem getLast?_of_hasTailIn {s : String} {tails : List String} {cs : List Char} (h : hasTailIn s tails = true)
    (hcs : ∀ tail ∈ tails, tail.toList.getLast?.any cs.contains = true) : ∃ c ∈ cs, s.toList.getLast? = some c := by
  obtain ⟨tail, hmem, htail⟩ := hasTailIn_iff.mp h
  have hlast := hcs tail hmem
  cases hc : tail.toList.getLast? with
  | none =>
    rw [hc] at hlast
    cases hlast
  | some c =>
    rw [hc, Option.any_some, List.contains_iff_mem] at hlast
    exact ⟨c, hlast, getLast?_of_hasTail htail hc⟩

/-- Of two endings with different last characters a text has one at most. -/
theorem hasTail_of_other {s tail : String} {c : Char} (h : hasTail s tail = true)
    (hc : tail.toList.getLast? = some c) (other : String) {d : Char} (hd : other.toList.getLast? = some d) (hne : d ≠ c) :
    hasTail s other = false := by
  rw [Bool.eq_false_iff]
  intro hother
  have hlast := getLast?_of_hasTail hother hd
  rw [getLast?_of_hasTail h hc] at hlast
  exact hne (Option.some.inj hlast).symm

theorem dropLast_append (n : Nat) (w v : String) : dropLast (n + v.length) (w ++ v) = dropLast n w := by
  show String.ofList ((w ++ v).toList.take ((w ++ v).toList.length - (n + v.length))) = _
  rw [String.toList_append, List.length_append, ← String.length_toList, Nat.add_sub_add_right,
    List.take_append_of_le_length (Nat.sub_le ..)]
  rfl

theorem dropLast_length (w v : String) : dropLast v.length (w ++ v) = w := by
  have h := dropLast_append 0 w v
  rw [Nat.zero_add] at h
  rw [h]
  show String.ofList (w.toList.take w.toList.length) = w
  rw [List.take_length, String.ofList_toList]

/-! ## Beginnings -/

theorem after?_eq_some {word cs rest : List Char} : after? word cs = some rest ↔ cs = word ++ rest := by
  induction word generalizing cs with
  | nil => simp [after?]
  | cons w word ih =>
    cases cs with
    | nil => simp [after?]
    | cons c cs =>
      by_cases hc : w = c
      · simp [after?, hc, ih]
      · simp [after?, hc, Ne.symm hc]

theorem after?_eq_none {word cs : List Char} : after? word cs = none ↔ ¬word <+: cs := by
  rw [Option.eq_none_iff_forall_ne_some]
  constructor
  · rintro h ⟨rest, rfl⟩
    exact h rest (after?_eq_some.mpr rfl)
  · intro h rest hrest
    exact h ⟨rest, (after?_eq_some.mp hrest).symm⟩

theorem cutAt?_free {mark : Char} {word before : List Char} (h : mark ∉ before) (cs : List Char) :
    cutAt? (mark :: word) (before ++ cs) =
      (cutAt? (mark :: word) cs).map fun parts => (before ++ parts.1, parts.2) := by
  induction before with
  | nil =>
    rw [List.nil_append]
    cases cutAt? (mark :: word) cs <;> rfl
  | cons c before ih =>
    rw [List.mem_cons, not_or] at h
    have hc : after? (mark :: word) (c :: (before ++ cs)) = none := by
      rw [after?, if_neg (by simpa using h.1)]
    rw [List.cons_append, cutAt?, hc, ih h.2]
    cases cutAt? (mark :: word) cs <;> rfl

/-- A text is cut at the first place where the word can begin. -/
theorem cutAt?_first {mark : Char} {word before : List Char} (h : mark ∉ before) (rest : List Char) :
    cutAt? (mark :: word) (before ++ (mark :: word ++ rest)) = some (before, rest) := by
  have hcut : cutAt? (mark :: word) (mark :: word ++ rest) = some ([], rest) := by
    rw [List.cons_append, cutAt?, ← List.cons_append, after?_eq_some.mpr rfl]
  rw [cutAt?_free h, hcut, Option.map_some, List.append_nil]

/-! ## The order of texts

Code-point order is total and antisymmetric, so sorting texts is a permutation of them and forgets the order in
which they came.
-/

theorem textLe_iff {a b : String} : textLe a b = true ↔ a ≤ b := by
  simp only [textLe, Bool.not_eq_true', decide_eq_false_iff_not, String.not_lt]

theorem textLe_trans (a b c : String) (h₁ : textLe a b = true) (h₂ : textLe b c = true) : textLe a c = true := by
  rw [textLe_iff] at *
  exact String.le_trans h₁ h₂

theorem textLe_total (a b : String) : (textLe a b || textLe b a) = true := by
  rw [Bool.or_eq_true, textLe_iff, textLe_iff]
  exact String.le_total a b

theorem textLe_antisymm {a b : String} (h₁ : textLe a b = true) (h₂ : textLe b a = true) : a = b := by
  rw [textLe_iff] at *
  exact String.le_antisymm h₁ h₂

theorem sortTexts_perm (l : List String) : (sortTexts l).Perm l := List.mergeSort_perm l textLe

theorem sortTexts_of_perm {l m : List String} (h : m.Perm l) : sortTexts m = sortTexts l := by
  refine (((sortTexts_perm m).trans h).trans (sortTexts_perm l).symm).eq_of_pairwise
    (fun a b _ _ hab hba => textLe_antisymm hab hba) ?_ ?_
  all_goals exact List.pairwise_mergeSort textLe_trans textLe_total _

/-- Sorting by a text forgets all of an order but how entries stand that share their text. -/
theorem sorted_eq_iff {α : Type} (text : α → String) (l m : List α) :
    (l.mergeSort fun a b => textLe (text a) (text b)) = m.mergeSort (fun a b => textLe (text a) (text b)) ↔
      ∀ n, l.filter (text · = n) = m.filter (text · = n) := by
  have htrans (a b c : α) : textLe (text a) (text b) = true → textLe (text b) (text c) = true →
      textLe (text a) (text c) = true := textLe_trans _ _ _
  have htotal (a b : α) : (textLe (text a) (text b) || textLe (text b) (text a)) = true := textLe_total _ _
  have hkey (a b : α) : textLe (text a) (text b) = true → textLe (text b) (text a) = true → text a = text b :=
    textLe_antisymm
  have hle (a b : α) (h : text a = text b) : textLe (text a) (text b) = true := textLe_iff.mpr (h ▸ String.le_refl _)
  exact mergeSort_eq_iff htrans htotal hkey hle l m

theorem mem_sortTexts {s : String} {l : List String} : s ∈ sortTexts l ↔ s ∈ l := (sortTexts_perm l).mem_iff

end SchemaConcord.Text
