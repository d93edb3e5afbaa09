import SchemaConcord.Form.Match
import SchemaConcord.Proofs.Naming.Plural
import SchemaConcord.Proofs.Text.Case

/-!
# Spelling styles

A name is a list of words, and a style says how the words are put together: with a mark between them, or with capitals.
Snake case reads the words back from every style (`Naming.Style.snakeCase_write`), so that nothing that goes by the
snake case of a name can tell the styles apart (`Naming.Style.spelled_alike`).
-/

namespace SchemaConcord

open Text

/-! ## Marks between pieces -/

namespace Text

theorem squeezeFrom_free {p : Char → Bool} {image piece : List Char} (hne : piece ≠ []) (h : ∀ c ∈ piece, p c = false)
    (inside : Bool) (rest : List Char) :
    squeezeFrom p image inside (piece ++ rest) = piece ++ squeezeFrom p image false rest := by
  induction piece generalizing inside with
  | nil => exact absurd rfl hne
  | cons c cs ih =>
    rw [List.cons_append, squeezeFrom, h c (List.mem_cons_self ..), if_neg Bool.false_ne_true]
    by_cases hcs : cs = []
    · rw [hcs, List.nil_append, List.singleton_append]
    · rw [ih hcs (fun d hd => h d (List.mem_cons_of_mem c hd)), List.cons_append]

/-- A mark between pieces becomes the image of a run. -/
theorem squeeze_intercalate {p : Char → Bool} {image : List Char} {mark : Char} (hmark : p mark = true)
    {pieces : List (List Char)} (hpieces : ∀ piece ∈ pieces, piece ≠ [] ∧ ∀ c ∈ piece, p c = false) :
    squeeze p image ([mark].intercalate pieces) = image.intercalate pieces := by
  have htail : ∀ {pieces : List (List Char)}, (∀ piece ∈ pieces, piece ≠ [] ∧ ∀ c ∈ piece, p c = false) →
      squeezeFrom p image false (pieces.flatMap ([mark] ++ ·)) = pieces.flatMap (image ++ ·) := by
    intro pieces
    induction pieces with
    | nil => exact fun _ => rfl
    | cons piece pieces ih =>
      intro h
      obtain ⟨hne, hfree⟩ := h piece (List.mem_cons_self ..)
      rw [List.flatMap_cons, List.flatMap_cons, List.append_assoc, List.singleton_append, squeezeFrom, if_pos hmark,
        if_neg Bool.false_ne_true, squeezeFrom_free hne hfree, ih fun q hq => h q (List.mem_cons_of_mem piece hq),
        List.append_assoc]
  cases pieces with
  | nil => rfl
  | cons piece pieces =>
    obtain ⟨hne, hfree⟩ := hpieces piece (List.mem_cons_self ..)
    rw [intercalate_cons, intercalate_cons, squeeze, squeezeFrom_free hne hfree,
      htail fun q hq => hpieces q (List.mem_cons_of_mem piece hq)]

/-- Nothing is trimmed off pieces that do not have the class, whatever stands between them. -/
theorem trim_intercalate {p : Char → Bool} {separator : List Char} {pieces : List (List Char)} (hne : pieces ≠ [])
    (hpieces : ∀ piece ∈ pieces, piece ≠ [] ∧ ∀ c ∈ piece, p c = false) :
    trim p (separator.intercalate pieces) = separator.intercalate pieces := by
  obtain ⟨⟨more, hmore⟩, front, hfront⟩ := intercalate_ends separator hne
  obtain ⟨hheadNe, hheadFree⟩ := hpieces _ (List.head_mem hne)
  obtain ⟨hlastNe, hlastFree⟩ := hpieces _ (List.getLast_mem hne)
  have hhead : ∀ c ∈ (separator.intercalate pieces).head?, p c = false := by
    intro c hc
    rw [hmore, List.head?_append_of_ne_nil _ hheadNe] at hc
    exact hheadFree c (List.mem_of_mem_head? hc)
  have hlast : ∀ c ∈ (separator.intercalate pieces).getLast?, p c = false := by
    intro c hc
    rw [hfront, List.getLast?_append_of_ne_nil _ hlastNe] at hc
    exact hlastFree c (List.mem_of_getLast? hc)
  have hnone : ∀ c ∈ ([] : List Char), p c = true := fun _ hc => nomatch hc
  have hall := trim_enclosed hnone hnone hhead hlast
  rwa [List.nil_append, List.append_nil] at hall

end Text

namespace Naming

/-! ## Words -/

/-- A small ASCII letter and after it small ASCII letters and digits, at least one: letters alone would run together as
capitals. -/
def isPlainWord : List Char → Bool
  | [] => false
  | c :: rest => isAsciiLower c && !rest.isEmpty && rest.all isSmallAscii

/-- A word with its first letter a capital. -/
def withCapital (cs : List Char) : List Char := (cs.take 1).map asciiUpper ++ cs.drop 1

theorem asciiUpper_of_lower {c : Char} (h : isAsciiLower c = true) :
    isAsciiUpper (asciiUpper c) = true ∧ asciiLower (asciiUpper c) = c := by
  have hcode := isAsciiLower_iff.mp h
  have hshift : (asciiUpper c).toNat = c.toNat - 32 := by
    rw [asciiUpper, if_pos h, toNat_ofNat (.inl (by omega))]
  have hupper : isAsciiUpper (asciiUpper c) = true := isAsciiUpper_iff.mpr (by omega)
  refine ⟨hupper, ?_⟩
  rw [asciiLower, if_pos hupper, hshift, Nat.sub_add_cancel (by omega), Char.ofNat_toNat]

/-- A plain word with what its letters are. -/
theorem plainWord_cases {piece : List Char} (h : isPlainWord piece = true) :
    ∃ c rest, piece = c :: rest ∧ isAsciiLower c = true ∧ rest ≠ [] ∧ ∀ d ∈ rest, isSmallAscii d = true := by
  cases piece with
  | nil => cases h
  | cons c rest =>
    rw [isPlainWord, Bool.and_eq_true, Bool.and_eq_true, List.all_eq_true] at h
    obtain ⟨⟨hc, hrest⟩, hplain⟩ := h
    refine ⟨c, rest, rfl, hc, ?_, hplain⟩
    rintro rfl
    cases hrest

theorem not_isSeparator_of_smallAscii {c : Char} (h : isSmallAscii c = true) : isSeparator c = false :=
  (isAlphanumeric_apart (smallLetter_of_ascii h).1).1

theorem asciiLower_of_smallAscii {cs : List Char} (h : ∀ c ∈ cs, isSmallAscii c = true) : cs.map asciiLower = cs := by
  rw [← lower_of_ascii fun c hc => isAscii_of_smallAscii (h c hc)]
  exact lower_of_small fun c hc => (smallLetter_of_ascii (h c hc)).2

section
variable {piece : List Char} (h : isPlainWord piece = true)

include h

theorem isSmallAscii_of_word : ∀ c ∈ piece, isSmallAscii c = true := by
  obtain ⟨c, rest, rfl, hc, -, hrest⟩ := plainWord_cases h
  refine List.forall_mem_cons.mpr ⟨?_, hrest⟩
  rw [isSmallAscii, hc, Bool.true_or]

theorem word_ne_nil : piece ≠ [] := by
  rintro rfl
  cases h

theorem ascii_withCapital : ∀ c ∈ withCapital piece, isAscii c = true ∧ isSeparator c = false := by
  obtain ⟨c, rest, rfl, hc, -, hrest⟩ := plainWord_cases h
  have hupper := (asciiUpper_of_lower hc).1
  refine List.forall_mem_cons.mpr ⟨?_, fun d hd => ?_⟩
  · have hcode := isAsciiUpper_iff.mp hupper
    have hascii : isAscii (asciiUpper c) = true := decide_eq_true (by omega)
    refine ⟨hascii, (isAlphanumeric_apart ?_).1⟩
    rw [isAlphanumeric, if_pos hascii, isAsciiLetter, hupper, Bool.true_or, Bool.true_or]
  · exact ⟨isAscii_of_smallAscii (hrest d hd), not_isSeparator_of_smallAscii (hrest d hd)⟩

theorem asciiLower_withCapital : (withCapital piece).map asciiLower = piece := by
  obtain ⟨c, rest, rfl, hc, -, hrest⟩ := plainWord_cases h
  show asciiLower (asciiUpper c) :: rest.map asciiLower = _
  rw [(asciiUpper_of_lower hc).2, asciiLower_of_smallAscii hrest]

end

/-! ## Capitals between words -/

theorem markAcronyms_append {piece : List Char} (hne : piece ≠ []) (h : ∀ c ∈ piece, isAsciiUpper c = false)
    (inRun : Bool) (rest : List Char) :
    markAcronyms inRun (piece ++ rest) = piece ++ markAcronyms false rest := by
  induction piece generalizing inRun with
  | nil => exact absurd rfl hne
  | cons c cs ih =>
    have hc := h c (List.mem_cons_self ..)
    rw [List.cons_append, markAcronyms, hc]
    by_cases hcs : cs = []
    · simp [hcs]
    · simp [ih hcs fun d hd => h d (List.mem_cons_of_mem c hd)]

theorem markHumps_append {piece : List Char} (hne : piece ≠ []) (h : ∀ c ∈ piece, isSmallAscii c = true)
    (afterSmall : Bool) (rest : List Char) :
    markHumps afterSmall (piece ++ rest) = piece ++ markHumps true rest := by
  induction piece generalizing afterSmall with
  | nil => exact absurd rfl hne
  | cons c cs ih =>
    have hc := h c (List.mem_cons_self ..)
    have hsmall : (isAsciiLower c || isAsciiDigit c) = true := hc
    rw [List.cons_append, markHumps, not_isAsciiUpper_of_smallAscii hc, hsmall]
    by_cases hcs : cs = []
    · simp [hcs]
    · simp [ih hcs fun d hd => h d (List.mem_cons_of_mem c hd)]

section
variable {piece : List Char} (h : isPlainWord piece = true)

include h

/-- A capital with a small letter before it begins no run of capitals. -/
theorem markAcronyms_withCapital (rest : List Char) :
    markAcronyms false (withCapital piece ++ rest) = withCapital piece ++ markAcronyms false rest := by
  obtain ⟨c, more, rfl, hc, hne, hmore⟩ := plainWord_cases h
  have hupper : ∀ d ∈ more, isAsciiUpper d = false := fun d hd => not_isAsciiUpper_of_smallAscii (hmore d hd)
  show markAcronyms false (asciiUpper c :: (more ++ rest)) = asciiUpper c :: (more ++ markAcronyms false rest)
  rw [markAcronyms, markAcronyms_append hne hupper]
  rfl

/-- A capital after a small letter begins a word. -/
theorem markHumps_withCapital (afterSmall : Bool) (rest : List Char) :
    markHumps afterSmall (withCapital piece ++ rest) =
      (if afterSmall then ['_'] else []) ++ (withCapital piece ++ markHumps true rest) := by
  obtain ⟨c, more, rfl, hc, hne, hmore⟩ := plainWord_cases h
  show markHumps afterSmall (asciiUpper c :: (more ++ rest)) =
    (if afterSmall then ['_'] else []) ++ (asciiUpper c :: (more ++ markHumps true rest))
  rw [markHumps, markHumps_append hne hmore, (asciiUpper_of_lower hc).1, Bool.and_true]
  cases afterSmall <;> rfl

end

section
variable {pieces : List (List Char)} (h : ∀ piece ∈ pieces, isPlainWord piece = true)

include h

theorem markAcronyms_capitals : markAcronyms false (pieces.flatMap withCapital) = pieces.flatMap withCapital := by
  induction pieces with
  | nil => rfl
  | cons piece pieces ih =>
    rw [List.flatMap_cons, markAcronyms_withCapital (h piece (List.mem_cons_self ..)),
      ih fun q hq => h q (List.mem_cons_of_mem piece hq)]

theorem markHumps_capitals :
    markHumps true (pieces.flatMap withCapital) = pieces.flatMap fun piece => '_' :: withCapital piece := by
  induction pieces with
  | nil => rfl
  | cons piece pieces ih =>
    rw [List.flatMap_cons, markHumps_withCapital (h piece (List.mem_cons_self ..)),
      ih fun q hq => h q (List.mem_cons_of_mem piece hq)]
    rfl

theorem lower_capitals :
    (pieces.flatMap fun piece => '_' :: withCapital piece).map asciiLower = pieces.flatMap (['_'] ++ ·) := by
  rw [List.map_flatMap]
  refine List.flatMap_congr fun piece hpiece => ?_
  rw [List.map_cons, asciiLower_withCapital (h piece hpiece)]
  rfl

end

/-- Characters at the start of a name that are taken for a word, with a capital or without. -/
structure Begins (first piece : List Char) : Prop where
  chars : ∀ c ∈ first, isAscii c = true ∧ isSeparator c = false
  acronyms : ∀ rest, markAcronyms false (first ++ rest) = first ++ markAcronyms false rest
  humps : ∀ rest, markHumps false (first ++ rest) = first ++ markHumps true rest
  lower : first.map asciiLower = piece

section
variable {piece : List Char} (h : isPlainWord piece = true)

include h

theorem Begins.plain : Begins piece piece where
  chars c hc := by
    have hsmall := isSmallAscii_of_word h c hc
    exact ⟨isAscii_of_smallAscii hsmall, not_isSeparator_of_smallAscii hsmall⟩
  acronyms := markAcronyms_append (word_ne_nil h)
    (fun c hc => not_isAsciiUpper_of_smallAscii (isSmallAscii_of_word h c hc)) false
  humps := markHumps_append (word_ne_nil h) (isSmallAscii_of_word h) false
  lower := asciiLower_of_smallAscii (isSmallAscii_of_word h)

theorem Begins.capital : Begins (withCapital piece) piece where
  chars := ascii_withCapital h
  acronyms := markAcronyms_withCapital h
  humps := markHumps_withCapital h false
  lower := asciiLower_withCapital h

end

/-! ## Snake case of the styles -/

theorem toList_snakeCase (name : String) : (snakeCase name).toList =
    lower (squeeze isSeparator ['_'] (markHumps false (markAcronyms false (trim isBlank name.toList)))) :=
  String.toList_ofList

section
variable {name : String} {pieces : List (List Char)}

/-- Words with a mark between them, as in `order_item`, `order-item` and `order item`. -/
theorem snakeCase_of_joined {mark : Char} (hmark : mark ∈ ['_', '-', ' ']) (hne : pieces ≠ [])
    (h : ∀ piece ∈ pieces, isPlainWord piece = true) (hname : name.toList = [mark].intercalate pieces) :
    (snakeCase name).toList = ['_'].intercalate pieces := by
  have hplain : ∀ piece ∈ pieces, ∀ c ∈ piece, SmallLetter c := fun piece hpiece c hc =>
    smallLetter_of_ascii (isSmallAscii_of_word (h piece hpiece) c hc)
  have hfree : ∀ piece ∈ pieces, ∀ c ∈ piece, isSeparator c = false := fun piece hpiece c hc =>
    not_isSeparator_of_smallAscii (isSmallAscii_of_word (h piece hpiece) c hc)
  have hblank : ∀ piece ∈ pieces, piece ≠ [] ∧ ∀ c ∈ piece, isBlank c = false := fun piece hpiece =>
    ⟨word_ne_nil (h piece hpiece), fun c hc => (Bool.or_eq_false_iff.mp (hfree piece hpiece c hc)).2⟩
  have hmarkSmall : ∀ mark ∈ ['_', '-', ' '], Text.Small mark := by
    have hsmall : ∀ mark ∈ ['_', '-', ' '], isAscii mark = true ∧ isAsciiUpper mark = false := forall_of_all rfl
    exact fun mark hmark => small_of_ascii (hsmall mark hmark).1 (hsmall mark hmark).2
  have hsmall : ∀ mark ∈ ['_', '-', ' '], ∀ c ∈ [mark].intercalate pieces, Text.Small c := fun mark hmark =>
    forall_intercalate (List.forall_mem_singleton.mpr (hmarkSmall mark hmark)) fun piece hpiece c hc =>
      (hplain piece hpiece c hc).2
  have hupper : ∀ c ∈ [mark].intercalate pieces, isAsciiUpper c = false := fun c hc =>
    not_isAsciiUpper_of_small (hsmall mark hmark c hc)
  have hsqueeze : squeeze isSeparator ['_'] ([mark].intercalate pieces) = ['_'].intercalate pieces := by
    by_cases hunder : mark = '_'
    · rw [hunder]
      exact squeeze_of_free (forall_intercalate (List.forall_mem_singleton.mpr rfl) hfree)
    · have hseparators : ∀ mark ∈ ['_', '-', ' '], mark ≠ '_' → isSeparator mark = true := forall_of_all (by decide)
      exact squeeze_intercalate (hseparators mark hmark hunder) fun piece hpiece =>
        ⟨word_ne_nil (h piece hpiece), hfree piece hpiece⟩
  rw [toList_snakeCase, hname, trim_intercalate hne hblank, markAcronyms_of_small hupper, markHumps_of_small hupper,
    hsqueeze, lower_of_small (hsmall '_' (by decide))]

/-- Words with capitals after the first, as in `orderItem` and `OrderItem`. -/
theorem snakeCase_of_capitals {first piece : List Char} (hfirst : Begins first piece)
    (h : ∀ q ∈ pieces, isPlainWord q = true) (hname : name.toList = first ++ pieces.flatMap withCapital) :
    (snakeCase name).toList = ['_'].intercalate (piece :: pieces) := by
  have hmarked : ∀ c ∈ first ++ pieces.flatMap fun q => '_' :: withCapital q,
      isAscii c = true ∧ isSeparator c = false := by
    refine List.forall_mem_append.mpr ⟨hfirst.chars, fun c hc => ?_⟩
    obtain ⟨q, hq, hc⟩ := List.mem_flatMap.mp hc
    rcases List.mem_cons.mp hc with rfl | hc
    · decide
    · exact ascii_withCapital (h q hq) c hc
  have hblank : ∀ c ∈ first ++ pieces.flatMap withCapital, isBlank c = false := by
    refine List.forall_mem_append.mpr ⟨fun c hc => (Bool.or_eq_false_iff.mp (hfirst.chars c hc).2).2, fun c hc => ?_⟩
    obtain ⟨q, hq, hc⟩ := List.mem_flatMap.mp hc
    exact (Bool.or_eq_false_iff.mp (ascii_withCapital (h q hq) c hc).2).2
  rw [toList_snakeCase, hname, trim_of_free hblank, hfirst.acronyms, markAcronyms_capitals h, hfirst.humps,
    markHumps_capitals h, squeeze_of_free fun c hc => (hmarked c hc).2, lower_of_ascii fun c hc => (hmarked c hc).1,
    List.map_append, hfirst.lower, lower_capitals h, intercalate_cons]

end

/-! ## Styles -/

/-- The ways to write words as one name. -/
inductive Style where
  | snake
  | kebab
  | spaced
  | camel
  | pascal
  deriving Repr, DecidableEq

namespace Style

def capitalized (word : String) : String := onChars withCapital word

def write : Style → List String → String
  | snake, words => joinWith "_" words
  | kebab, words => joinWith "-" words
  | spaced, words => joinWith " " words
  | camel, [] => ""
  | camel, first :: others => first ++ String.join (others.map capitalized)
  | pascal, words => String.join (words.map capitalized)

theorem toList_join_capitalized (words : List String) :
    (String.join (words.map capitalized)).toList = (words.map String.toList).flatMap withCapital := by
  rw [String.toList_join, List.flatMap_map, List.flatMap_map]
  exact List.flatMap_congr fun w _ => String.toList_ofList

theorem capitalize_of_plain {word : String} (h : isPlainWord word.toList = true) :
    capitalize word = capitalized word := by
  obtain ⟨c, rest, hword, hc, -, -⟩ := plainWord_cases h
  have hascii : isAscii c = true := isAscii_of_smallAscii (Bool.or_eq_true_iff.mpr (.inl hc))
  rw [capitalize, capitalized, onChars, onChars, hword]
  show String.ofList (upperChars c ++ [] ++ rest) = String.ofList (asciiUpper c :: rest)
  rw [upperChars, if_pos hascii]
  rfl

section
variable {words : List String} (hne : words ≠ []) (h : ∀ w ∈ words, isPlainWord w.toList = true)

include hne h

/-- Every style has the words themselves for its snake case. -/
theorem snakeCase_write (style : Style) : snakeCase (style.write words) = joinWith "_" words := by
  have hpieces : ∀ piece ∈ words.map String.toList, isPlainWord piece = true := List.forall_mem_map.mpr h
  have hpiecesNe : words.map String.toList ≠ [] := fun hnil => hne (List.map_eq_nil_iff.mp hnil)
  have hjoined : ∀ {mark : Char} {separator : String}, separator.toList = [mark] → mark ∈ ['_', '-', ' '] →
      snakeCase (joinWith separator words) = joinWith "_" words := by
    intro mark separator hseparator hmark
    rw [← String.toList_inj, joinWith, joinWith, String.toList_intercalate]
    exact snakeCase_of_joined hmark hpiecesNe hpieces (by rw [String.toList_intercalate, hseparator])
  obtain ⟨first, others, rfl⟩ := List.exists_cons_of_ne_nil hne
  obtain ⟨hfirst, hothers⟩ := List.forall_mem_cons.mp hpieces
  cases style with
  | snake => exact hjoined rfl (by decide)
  | kebab => exact hjoined rfl (by decide)
  | spaced => exact hjoined rfl (by decide)
  | camel =>
    rw [← String.toList_inj, joinWith, String.toList_intercalate]
    refine snakeCase_of_capitals (.plain hfirst) hothers ?_
    rw [write, String.toList_append, toList_join_capitalized]
  | pascal =>
    rw [← String.toList_inj, joinWith, String.toList_intercalate]
    refine snakeCase_of_capitals (.capital hfirst) hothers ?_
    rw [write, toList_join_capitalized]
    rfl

theorem pascalCase_joined : pascalCase (joinWith "_" words) = pascal.write words := by
  have hsplit : splitChar '_' (joinWith "_" words) = words := by
    have hfree : ∀ piece ∈ words.map String.toList, '_' ∉ piece := by
      refine List.forall_mem_map.mpr fun w hw hmem => ?_
      exact absurd (isSmallAscii_of_word (h w hw) '_' hmem) (by decide)
    rw [splitChar, joinWith, String.toList_intercalate]
    show (splitAt (· == '_') (['_'].intercalate (words.map String.toList))).map String.ofList = words
    rw [splitAt_intercalate (fun hnil => hne (List.map_eq_nil_iff.mp hnil)) hfree, List.map_map]
    simp
  rw [pascalCase, show snakeCase (joinWith "_" words) = joinWith "_" words from snakeCase_write hne h snake, hsplit,
    List.map_congr_left fun w hw => capitalize_of_plain (h w hw)]
  rfl

/-- The style of a name does not count: every style has the same snake case, from which the capitals come back, and a
form finds the same table by each. -/
theorem spelled_alike :
    (∀ style : Style, snakeCase (style.write words) = joinWith "_" words) ∧
      pascalCase (joinWith "_" words) = pascal.write words ∧
        ∀ (s : Snapshot) (style other : Style),
          s.formTable? (style.write words) = s.formTable? (other.write words) := by
  refine ⟨snakeCase_write hne h, pascalCase_joined hne h, ?_⟩
  intro s style other
  rw [Snapshot.formTable?, Snapshot.formTable?, snakeCase_write hne h style, snakeCase_write hne h other]

end

/-- A form for order items finds their table as `Order2Items`, `order2-items` or `order2Items`. -/
theorem spelled_alike_orderItems :
    ["order2", "items"] ≠ [] ∧ (∀ w ∈ ["order2", "items"], isPlainWord w.toList = true) ∧
      camel.write ["order2", "items"] = "order2Items" ∧ pascal.write ["order2", "items"] = "Order2Items" ∧
      snakeCase "order2Items" = "order2_items" ∧ pascalCase "order2_items" = "Order2Items" ∧
      (Snapshot.ofTable "order2_item").formTable? "order2Items" =
        (Snapshot.ofTable "order2_item").formTable? "order2-items" := by
  have hwords : ∀ w ∈ ["order2", "items"], isPlainWord w.toList = true := by decide
  have hne : ["order2", "items"] ≠ [] := by decide
  obtain ⟨hsnake, hpascal, hform⟩ := spelled_alike hne hwords
  exact ⟨hne, hwords, by decide, by decide, hsnake camel, hpascal, hform (Snapshot.ofTable "order2_item") camel kebab⟩

end Style

end Naming

end SchemaConcord
