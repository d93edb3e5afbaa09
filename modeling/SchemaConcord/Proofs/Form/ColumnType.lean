import SchemaConcord.Form.Validate
import SchemaConcord.Proofs.Text.Case
import SchemaConcord.Proofs.Text.Digits
import SchemaConcord.Route.Input

/-!
# The column type of a field

The length of a column is a number that stands in its type: the first one in brackets right after `char`, as in
`varchar(80)` (`Column.maxLength?_eq_some`).

The type proposed for a field, read back as the type of a column. A text of bounded length calls for an address, a
password or a text, by the name of the column (`Column.fieldKind_of_bounded`), and is as long as it says
(`Column.maxLength?_of_bounded`). Every other type calls for one kind by itself (`FormField.calls_columnType`), the kind
of the field but for a text.
-/

namespace SchemaConcord

namespace Text

theorem lower_of_eq {s s' : String} (h : lowercase s = lowercase s') : lower s.toList = lower s'.toList :=
  String.ofList_injective h

end Text

open Text

/-! ## The length in a type -/

/-- A length stands in a text: digits in brackets, right after `char`. -/
def LengthAt (cs before digits after : List Char) : Prop :=
  cs = before ++ ("char(".toList ++ (digits ++ ')' :: after)) ∧ digits ≠ [] ∧ ∀ d ∈ digits, isDecimal d = true

/-- The first length that stands in a text is `n`. -/
def FirstLength (cs : List Char) (n : Nat) : Prop := ∃ before digits after, LengthAt cs before digits after ∧
  natOfDigits digits = n ∧
    ∀ before' digits' after', LengthAt cs before' digits' after' → before.length ≤ before'.length

theorem lengthDigits?_eq_some {cs digits : List Char} : lengthDigits? cs = some digits ↔
    (∃ after, cs = digits ++ ')' :: after) ∧ digits ≠ [] ∧ ∀ d ∈ digits, isDecimal d = true := by
  unfold lengthDigits?
  constructor
  · intro h
    dsimp only at h
    split at h
    · cases h
    · next hne =>
      split at h
      · next after hafter =>
        cases h
        refine ⟨⟨after, ?_⟩, ?_, ?_⟩
        · rw [← hafter, List.takeWhile_append_dropWhile]
        · rwa [List.isEmpty_iff] at hne
        · exact List.all_eq_true.mp List.all_takeWhile
      · cases h
  · rintro ⟨⟨after, rfl⟩, hne, hdigits⟩
    have htake : (digits ++ ')' :: after).takeWhile isDecimal = digits := by
      rw [List.takeWhile_append_of_pos hdigits, List.takeWhile_cons_of_neg (by decide), List.append_nil]
    have hdrop : (digits ++ ')' :: after).dropWhile isDecimal = ')' :: after := by
      rw [List.dropWhile_append_of_pos hdigits, List.dropWhile_cons_of_neg (by decide)]
    have hempty : digits.isEmpty = false := by rwa [Bool.eq_false_iff, ne_eq, List.isEmpty_iff]
    simp only [htake, hdrop, hempty, Bool.false_eq_true, if_false]

theorem lengthAt_nil {cs digits : List Char} : (after? "char(".toList cs).bind lengthDigits? = some digits ↔
    ∃ after, LengthAt cs [] digits after := by
  rw [Option.bind_eq_some_iff]
  constructor
  · rintro ⟨rest, hrest, hdigits⟩
    obtain ⟨⟨after, rfl⟩, hne, hall⟩ := lengthDigits?_eq_some.mp hdigits
    exact ⟨after, (after?_eq_some.mp hrest).trans (List.nil_append _).symm, hne, hall⟩
  · rintro ⟨after, hcs, hne, hall⟩
    exact ⟨_, after?_eq_some.mpr hcs, lengthDigits?_eq_some.mpr ⟨⟨after, rfl⟩, hne, hall⟩⟩

theorem lengthAt_cons {c d : Char} {cs before digits after : List Char} :
    LengthAt (c :: cs) (d :: before) digits after ↔ c = d ∧ LengthAt cs before digits after := by
  unfold LengthAt
  rw [List.cons_append, List.cons.injEq, and_assoc]

/-- A text has the length that stands at its beginning, and else the one of the rest. -/
theorem firstLength_cons {c : Char} {cs : List Char} {n : Nat} : FirstLength (c :: cs) n ↔
    (∃ digits after, LengthAt (c :: cs) [] digits after ∧ natOfDigits digits = n) ∨
      (∀ digits after, ¬ LengthAt (c :: cs) [] digits after) ∧ FirstLength cs n := by
  constructor
  · rintro ⟨before, digits, after, hat, hn, hfirst⟩
    cases before with
    | nil => exact .inl ⟨digits, after, hat, hn⟩
    | cons d before =>
      obtain ⟨rfl, hrest⟩ := lengthAt_cons.mp hat
      refine .inr ⟨fun digits' after' h => ?_, before, digits, after, hrest, hn, fun before' digits' after' h => ?_⟩
      · cases hfirst _ _ _ h
      · exact Nat.le_of_succ_le_succ (hfirst _ _ _ (lengthAt_cons.mpr ⟨rfl, h⟩))
  · rintro (⟨digits, after, hat, hn⟩ | ⟨hnone, before, digits, after, hat, hn, hfirst⟩)
    · exact ⟨[], digits, after, hat, hn, fun _ _ _ _ => Nat.zero_le _⟩
    · refine ⟨c :: before, digits, after, lengthAt_cons.mpr ⟨rfl, hat⟩, hn, fun before' digits' after' h => ?_⟩
      cases before' with
      | nil => exact absurd h (hnone _ _)
      | cons d before' => exact Nat.succ_le_succ (hfirst _ _ _ (lengthAt_cons.mp h).2)

theorem charLength?_eq_some {cs : List Char} {n : Nat} : charLength? cs = some n ↔ FirstLength cs n := by
  induction cs with
  | nil =>
    refine iff_of_false (fun h => nomatch h) ?_
    rintro ⟨before, digits, after, ⟨hcs, -⟩, -⟩
    simp at hcs
  | cons c cs ih =>
    rw [charLength?, firstLength_cons]
    cases hhere : (after? "char(".toList (c :: cs)).bind lengthDigits? with
    | some digits =>
      obtain ⟨after, hat⟩ := lengthAt_nil.mp hhere
      have hsole : ∀ digits' after', LengthAt (c :: cs) [] digits' after' → digits' = digits := by
        intro digits' after' h
        exact Option.some.inj ((lengthAt_nil.mpr ⟨after', h⟩).symm.trans hhere)
      rw [or_iff_left fun h => h.1 digits after hat]
      constructor
      · intro h
        exact ⟨digits, after, hat, Option.some.inj h⟩
      · rintro ⟨digits', after', hat', rfl⟩
        rw [hsole digits' after' hat']
        rfl
    | none =>
      have hnone : ∀ digits after, ¬ LengthAt (c :: cs) [] digits after := by
        intro digits after h
        cases (lengthAt_nil.mpr ⟨after, h⟩).symm.trans hhere
      rw [or_iff_right fun ⟨digits, after, hat, _⟩ => hnone digits after hat, and_iff_right hnone]
      exact ih

theorem Column.maxLength?_eq_some {c : Column} {n : Nat} :
    c.maxLength? = some n ↔ FirstLength (lower c.type.toList) n := charLength?_eq_some

example : FirstLength "nvarchar(80) default 'char(2)'".toList 80 := charLength?_eq_some.mp rfl

/-! ## Texts of bounded length -/

def boundedText (n : Int) : List Char := "varchar(".toList ++ ((toString n).toList ++ [')'])

theorem toList_toString (n : Nat) : (toString (n : Int)).toList = Nat.toDigits 10 n := by
  show (toString n).toList = Nat.toDigits 10 n
  simp

theorem toList_toString_negSucc (n : Nat) : (toString (Int.negSucc n)).toList = '-' :: Nat.toDigits 10 (n + 1) := by
  have hminus : toString (Int.negSucc n) = "-" ++ toString (n + 1) := rfl
  rw [hminus, String.toList_append]
  simp

theorem mem_toString {n : Int} {c : Char} (h : c ∈ (toString n).toList) : c = '-' ∨ isAsciiDigit c = true := by
  cases n with
  | ofNat n =>
    rw [Int.ofNat_eq_natCast, toList_toString] at h
    exact .inr (isAsciiDigit_toDigits h)
  | negSucc n =>
    rw [toList_toString_negSucc, List.mem_cons] at h
    exact h.imp_right isAsciiDigit_toDigits

theorem isAscii_toString {n : Int} {c : Char} (h : c ∈ (toString n).toList) : isAscii c = true ∧ asciiLower c = c := by
  rcases mem_toString h with rfl | hdigit
  · decide
  · have hc := isAsciiDigit_iff.mp hdigit
    have hupper : isAsciiUpper c = false := by
      rw [Bool.eq_false_iff]
      intro h
      have := isAsciiUpper_iff.mp h
      omega
    refine ⟨decide_eq_true (by omega), ?_⟩
    rw [asciiLower, hupper, if_neg Bool.false_ne_true]

theorem lower_boundedText (n : Int) : lower ("VARCHAR(" ++ toString n ++ ")").toList = boundedText n := by
  have hkept : (toString n).toList.map asciiLower = (toString n).toList :=
    (List.map_congr_left fun c hc => (isAscii_toString hc).2).trans (List.map_id _)
  rw [String.toList_append, String.toList_append, List.append_assoc, lower_of_ascii, List.map_append, List.map_append,
    hkept]
  · rfl
  · have hname : ∀ c ∈ "VARCHAR(".toList, isAscii c = true := List.all_eq_true.mp rfl
    intro c hc
    rcases List.mem_append.mp hc with hc | hc
    · exact hname c hc
    · rcases List.mem_append.mp hc with hc | hc
      · exact (isAscii_toString hc).1
      · cases List.mem_singleton.mp hc
        decide

/-- A word with a small letter that the name of the type has not does not occur in it. -/
theorem occursIn_boundedText {word : List Char} (n : Int)
    (h : (word.any fun c => isAsciiLower c && !"varchar(".toList.contains c) = true) :
    occursIn word (boundedText n) = false := by
  obtain ⟨c, hword, hc⟩ := List.any_eq_true.mp h
  obtain ⟨hsmall, hc⟩ := Bool.and_eq_true_iff.mp hc
  refine occursIn_of_not_mem hword fun hmem => ?_
  rcases List.mem_append.mp hmem with hmem | hmem
  · rw [List.contains_iff_mem.mpr hmem] at hc
    cases hc
  · rcases List.mem_append.mp hmem with hmem | hmem
    · rcases mem_toString hmem with rfl | hdigit
      · exact absurd hsmall (by decide)
      · have hc := isAsciiLower_iff.mp hsmall
        have hc' := isAsciiDigit_iff.mp hdigit
        omega
    · cases List.mem_singleton.mp hmem
      exact absurd hsmall (by decide)

theorem charLength?_of_not_mem {cs : List Char} (h : 'c' ∉ cs) : charLength? cs = none := by
  induction cs with
  | nil => rfl
  | cons d cs ih =>
    have hd : ('c' == d) = false := beq_false_of_ne fun e => h (e ▸ List.mem_cons_self ..)
    have hafter : after? "char(".toList (d :: cs) = none := by
      show (if 'c' == d then _ else _) = _
      rw [hd]
      rfl
    rw [charLength?, hafter]
    exact ih fun hc => h (List.mem_cons_of_mem d hc)

theorem lengthDigits?_toDigits (n : Nat) : lengthDigits? (Nat.toDigits 10 n ++ [')']) = some (Nat.toDigits 10 n) := by
  refine lengthDigits?_eq_some.mpr ⟨⟨[], rfl⟩, by simp, ?_⟩
  intro c hc
  unfold isDecimal
  rw [digitValue?_of_isAsciiDigit (isAsciiDigit_toDigits hc)]
  rfl

theorem charLength?_boundedText (n : Nat) : charLength? (boundedText n) = some n := by
  have hafter : ∀ cs, charLength? ("varchar(".toList ++ cs) = charLength? ('c' :: ("har(".toList ++ cs)) := fun _ => rfl
  have hbind : ∀ cs, (after? "char(".toList ('c' :: ("har(".toList ++ cs))).bind lengthDigits? = lengthDigits? cs :=
    fun _ => rfl
  have hvalue : natOfDigits (Nat.toDigits 10 n) = n := by
    rw [natOfDigits_eq fun c hc => isAsciiDigit_toDigits hc, Nat.ofDigitChars_ten_toDigits]
  unfold boundedText
  rw [toList_toString, hafter, charLength?, hbind, lengthDigits?_toDigits]
  exact congrArg some hvalue

theorem charLength?_negSucc (n : Nat) : charLength? (boundedText (Int.negSucc n)) = none := by
  have hafter : ∀ cs, charLength? ("varchar(-".toList ++ cs) = charLength? ("har(-".toList ++ cs) := fun _ => rfl
  unfold boundedText
  rw [toList_toString_negSucc]
  refine (hafter _).trans (charLength?_of_not_mem fun hc => ?_)
  rcases List.mem_append.mp hc with hc | hc
  · exact absurd hc (by decide)
  · rcases List.mem_append.mp hc with hc | hc
    · exact absurd (isAsciiDigit_toDigits hc) (by decide)
    · exact absurd hc (by decide)

/-! ## The type of a field as that of a column -/

/-- The length that every field of a kind is given in its column, whatever the field declares. -/
def FieldKind.fixedLength? : FieldKind → Option Nat
  | .email | .password | .radio | .select | .multiselect | .hidden => some 255
  | .file => some 500
  | .text | .number | .date | .datetime | .time | .checkbox | .textarea => none

namespace FormField

def declaredLength? (x : FormField) : Option Int := x.rules.bind (·.maxLength)

/-- The length that the column of a field is given; a text without one is unbounded. -/
def columnLength? (x : FormField) : Option Int :=
  if x.kind = .text then x.declaredLength?.filter (· ≠ 0) else x.kind.fixedLength?.map Int.ofNat

theorem columnLength?_eq_none_of_text {x : FormField} (h : x.kind = .text) :
    x.columnLength? = none ↔ x.declaredLength?.getD 0 = 0 := by
  rw [columnLength?, if_pos h]
  cases x.declaredLength? with
  | none => exact iff_of_true rfl rfl
  | some n => simp [Option.filter_eq_none_iff]

theorem columnLength?_of_ne_text {x : FormField} (h : x.kind ≠ .text) :
    x.columnLength? = x.kind.fixedLength?.map Int.ofNat := by
  rw [columnLength?, if_neg h]

theorem columnType_text {x : FormField} (h : x.kind = .text) : x.columnType =
    match x.declaredLength? with
    | some n => if n = 0 then "TEXT" else "VARCHAR(" ++ toString n ++ ")"
    | none => "TEXT" := by
  obtain ⟨_, kind, _, rules⟩ := x
  obtain rfl : kind = .text := h
  cases rules <;> rfl

theorem columnType_of_length {x : FormField} {n : Int} (h : x.columnLength? = some n) :
    lower x.columnType.toList = boundedText n := by
  by_cases hkind : x.kind = .text
  · rw [columnLength?, if_pos hkind] at h
    obtain ⟨hdeclared, hne⟩ := Option.filter_eq_some_iff.mp h
    rw [columnType_text hkind, hdeclared, ← lower_boundedText]
    dsimp only
    rw [if_neg (of_decide_eq_true hne)]
  · rw [columnLength?_of_ne_text hkind] at h
    have hfixed : ∀ n : Nat, x.kind.fixedLength? = some n → x.columnType = "VARCHAR(" ++ toString (n : Int) ++ ")" := by
      intro n hn
      unfold columnType
      cases hk : x.kind <;> rw [hk] at hn <;> cases hn <;> rfl
    obtain ⟨m, hm, rfl⟩ := Option.map_eq_some_iff.mp h
    rw [hfixed m hm]
    exact lower_boundedText m

end FormField

namespace Column

variable {c : Column} {n : Int}

theorem fieldKind_of_bounded (h : lower c.type.toList = boundedText n) :
    c.fieldKind = .email ∨ c.fieldKind = .password ∨ c.fieldKind = .text := by
  have habsent : ∀ w : String, (w.toList.any fun ch => isAsciiLower ch && !"varchar(".toList.contains ch) = true →
      contains (lowercase c.type) w = false := by
    intro w hw
    rw [contains, lowercase, String.toList_ofList, h]
    exact occursIn_boundedText n hw
  unfold fieldKind
  simp only [habsent "bool" rfl, habsent "text" rfl, habsent "clob" rfl,
    habsent "timestamp" rfl, habsent "datetime" rfl, habsent "date" rfl,
    habsent "time" rfl, habsent "int" rfl, habsent "numeric" rfl, habsent "decimal" rfl,
    habsent "float" rfl, habsent "double" rfl, habsent "real" rfl, List.any_cons, List.any_nil,
    Bool.or_self, Bool.and_self, Bool.false_eq_true, if_false]
  split
  · exact .inl rfl
  · split
    · exact .inr (.inl rfl)
    · exact .inr (.inr rfl)

theorem maxLength?_of_bounded (h : lower c.type.toList = boundedText n) :
    c.maxLength? = if 0 ≤ n then some n.toNat else none := by
  unfold maxLength?
  rw [h]
  cases n with
  | ofNat n => exact charLength?_boundedText n
  | negSucc n => exact charLength?_negSucc n

/-- A type without a length that calls for one kind of field by itself. -/
def Calls (word : String) (kind : FieldKind) : Prop :=
  charLength? (lower word.toList) = none ∧ ∀ c : Column, lowercase c.type = lowercase word → c.fieldKind = kind

theorem calls_columnTypes : Calls "BOOLEAN" .checkbox ∧ Calls "TEXT" .textarea ∧ Calls "TIMESTAMP" .datetime ∧
    Calls "DATE" .date ∧ Calls "TIME" .time ∧ Calls "SMALLINT" .number ∧ Calls "INTEGER" .number := by
  refine ⟨⟨rfl, ?_⟩, ⟨rfl, ?_⟩, ⟨rfl, ?_⟩, ⟨rfl, ?_⟩, ⟨rfl, ?_⟩, ⟨rfl, ?_⟩, ⟨rfl, ?_⟩⟩
  all_goals
    intro c h
    unfold fieldKind
    rw [h]
    rfl

end Column

namespace FormField

/-- Without a length the type of a field calls for a field of the same kind, but for the text itself. -/
theorem calls_columnType {x : FormField} (h : x.columnLength? = none) :
    Column.Calls x.columnType (if x.kind = .text then .textarea else x.kind) := by
  obtain ⟨hcheckbox, htext, hdatetime, hdate, htime, hsmall, hwhole⟩ := Column.calls_columnTypes
  by_cases hkind : x.kind = .text
  · rw [if_pos hkind, columnType_text hkind]
    have hzero := (columnLength?_eq_none_of_text hkind).mp h
    cases hdeclared : x.declaredLength? with
    | none => exact htext
    | some n =>
      rw [hdeclared, Option.getD_some] at hzero
      dsimp only
      rw [if_pos hzero]
      exact htext
  · rw [columnLength?_of_ne_text hkind, Option.map_eq_none_iff] at h
    rw [if_neg hkind]
    unfold columnType
    cases hk : x.kind with
    | number =>
      dsimp only
      split
      · exact hsmall
      · exact hwhole
    | date => exact hdate
    | datetime => exact hdatetime
    | time => exact htime
    | checkbox => exact hcheckbox
    | textarea => exact htext
    | text => exact absurd hk hkind
    | _ => rw [hk] at h; cases h

theorem maxLength?_columnType {x : FormField} {c : Column} (h : lowercase c.type = lowercase x.columnType) :
    c.maxLength? = x.columnLength?.bind fun n => if 0 ≤ n then some n.toNat else none := by
  have htype := lower_of_eq h
  cases hlength : x.columnLength? with
  | none =>
    rw [Column.maxLength?, htype]
    exact (calls_columnType hlength).1
  | some n => exact Column.maxLength?_of_bounded (htype ▸ columnType_of_length hlength)

end FormField

end SchemaConcord
