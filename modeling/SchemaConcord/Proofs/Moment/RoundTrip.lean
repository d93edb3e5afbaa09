import Mathlib.Data.String.Basic
import SchemaConcord.Moment.Parser
import SchemaConcord.Proofs.Text.Digits

/-!
# The texts of moments

A moment of the calendar whose offset is less than a day is read back from its text (`read?_jsonText`).

Moments in universal time stand in three orders: by the microseconds that the calendar counts up to them, by their
fields from the year down, and by the code points of their texts. All three are the same (`isoText_lt_iff`), although a
text without a fraction is shorter than one with it.
-/

namespace SchemaConcord.Moment

open Text

/-- A moment as calendars and clocks have it. -/
structure WellFormed (m : Moment) : Prop where
  valid : m.isValid = true
  offset : ∀ o, m.offset = some o → o.natAbs < 24 * 60

/-! ## Padded numbers -/

theorem isAsciiDigit_padded {w n : Nat} : ∀ c ∈ padded w n, isAsciiDigit c = true := by
  intro c hc
  rcases List.mem_append.mp hc with hc | hc
  · rw [(List.mem_replicate.mp hc).2]
    rfl
  · exact isAsciiDigit_toDigits hc

theorem length_padded {w n : Nat} (hw : 0 < w) (h : n < Nat.pow 10 w) : (padded w n).length = w := by
  have := (Nat.length_toDigits_le_iff (by decide) hw).mpr h
  unfold padded
  rw [List.length_append, List.length_replicate]
  omega

theorem natOfDigits_padded (w n : Nat) : natOfDigits (padded w n) = n := by
  have hzeros : ∀ (k : Nat) (ds : List Char), Nat.ofDigitChars 10 (List.replicate k '0' ++ ds) 0 =
      Nat.ofDigitChars 10 ds 0 := by
    intro k ds
    induction k with
    | zero => rfl
    | succ k ih =>
      rw [List.replicate_succ, List.cons_append, Nat.ofDigitChars_cons]
      exact ih
  rw [natOfDigits_eq isAsciiDigit_padded]
  unfold padded
  rw [hzeros, Nat.ofDigitChars_ten_toDigits]

theorem padded_two {n : Nat} (h : n < 100) : ∃ a b, padded 2 n = [a, b] := by
  have hlen : (padded 2 n).length = 2 := length_padded (by decide) h
  match padded 2 n, hlen with
  | [a, b], _ => exact ⟨a, b, rfl⟩

theorem twoDigits?_padded {n : Nat} (h : n < 100) (t : List Char) : twoDigits? (padded 2 n ++ t) = some (n, t) := by
  obtain ⟨a, b, hab⟩ := padded_two h
  have hd := isAsciiDigit_padded (w := 2) (n := n)
  have hn := natOfDigits_padded 2 n
  rw [hab] at hd hn ⊢
  have ha := hd a (List.mem_cons_self ..)
  have hb := hd b (List.mem_cons_of_mem a (List.mem_cons_self ..))
  simp only [twoDigits?, List.cons_append, List.nil_append, ha, hb, Bool.and_self, if_true, hn]

/-! ## Dates, times and offsets -/

theorem date?_padded {year month day : Nat} (hy : 1 ≤ year ∧ year ≤ 9999) (hm : 1 ≤ month ∧ month ≤ 12)
    (hd : 1 ≤ day ∧ day ≤ daysInMonth year month) (t : List Char) :
    date? (padded 4 year ++ '-' :: (padded 2 month ++ '-' :: (padded 2 day ++ t))) = some ((year, month, day), t) := by
  have hlast : day < 100 := by
    have : daysInMonth year month ≤ 31 := by
      unfold daysInMonth
      split
      · split <;> decide
      · split <;> decide
    omega
  obtain ⟨a, b, c, d, habcd⟩ : ∃ a b c d, padded 4 year = [a, b, c, d] := by
    have hlen : (padded 4 year).length = 4 := length_padded (by decide) (show year < 10000 by omega)
    match padded 4 year, hlen with
    | [a, b, c, d], _ => exact ⟨a, b, c, d, rfl⟩
  have hdigits := isAsciiDigit_padded (w := 4) (n := year)
  have hyear := natOfDigits_padded 4 year
  rw [habcd] at hdigits hyear ⊢
  have hall : [a, b, c, d].all isAsciiDigit = true := List.all_eq_true.mpr hdigits
  have hcheck : (year == 0 || month == 0 || decide (12 < month) || day == 0 ||
      decide (daysInMonth year month < day)) = false := by
    simp only [Bool.or_eq_false_iff, beq_eq_false_iff_ne, decide_eq_false_iff_not]
    omega
  unfold date?
  simp only [List.cons_append, List.nil_append, hall, Bool.not_true, Bool.false_eq_true, if_false,
    twoDigits?_padded (show month < 100 by omega), twoDigits?_padded hlast, hyear, hcheck, Option.bind_eq_bind,
    Option.bind_some, Option.pure_def]

/-- A text that may follow a time without belonging to it. -/
def EndsTime (t : List Char) : Prop := ∀ c ∈ t.head?, c ≠ '.' ∧ c ≠ ',' ∧ isAsciiDigit c = false

def fractionText (micro : Nat) : List Char := if micro == 0 then [] else '.' :: padded 6 micro

theorem fraction?_fractionText {micro : Nat} (h : micro < 1000000) {t : List Char} (ht : EndsTime t) :
    fraction? (fractionText micro ++ t) = some (micro, t) := by
  unfold fractionText
  by_cases hz : micro = 0
  · rw [hz, BEq.rfl, if_pos rfl, List.nil_append]
    cases t with
    | nil => rfl
    | cons c t =>
      obtain ⟨hdot, hcomma, _⟩ := ht c rfl
      unfold fraction?
      simp only [beq_false_of_ne hdot, beq_false_of_ne hcomma, Bool.or_self, Bool.false_eq_true, if_false]
  · rw [if_neg (by simpa using hz), List.cons_append]
    obtain ⟨htake, hdrop⟩ := takeWhile_run (isAsciiDigit_padded (w := 6) (n := micro)) fun c hc => (ht c hc).2.2
    have hlen : (padded 6 micro).length = 6 := length_padded (by decide) h
    have hne : (padded 6 micro).isEmpty = false := by
      rw [List.isEmpty_eq_false_iff, ← List.length_pos_iff, hlen]
      decide
    unfold fraction?
    simp only [BEq.rfl, Bool.true_or, if_true, htake, hdrop, hne, Bool.false_eq_true, if_false]
    rw [List.take_of_length_le (by omega), natOfDigits_padded, hlen]
    simp

theorem time?_padded {hour minute second micro : Nat} (hh : hour < 24) (hm : minute < 60) (hs : second < 60)
    (hf : micro < 1000000) {t : List Char} (ht : EndsTime t) :
    time? (padded 2 hour ++ ':' :: (padded 2 minute ++ ':' :: (padded 2 second ++ (fractionText micro ++ t)))) =
      some ((hour, minute, second, micro), t) := by
  have hcheck : (decide (23 < hour) || decide (59 < minute)) = false := by
    rw [Bool.or_eq_false_iff, decide_eq_false_iff_not, decide_eq_false_iff_not]
    omega
  have hlast : ¬ 59 < second := by omega
  unfold time?
  simp only [twoDigits?_padded (show hour < 100 by omega), twoDigits?_padded (show minute < 100 by omega),
    twoDigits?_padded (show second < 100 by omega), fraction?_fractionText hf ht, hcheck, hlast, Bool.false_eq_true,
    if_false, Option.bind_eq_bind, Option.bind_some, Option.pure_def]

theorem offset?_signed {sign a b : Char} {t : List Char} {h m : Nat} (hsign : sign = '+' ∨ sign = '-')
    (hh : twoDigits? (a :: b :: ':' :: t) = some (h, ':' :: t)) (hm : twoDigits? t = some (m, [])) (hm' : m < 60)
    (hd : h * 60 + m < 24 * 60) : offset? (sign :: a :: b :: ':' :: t) =
      some (some (if sign == '+' then (h * 60 + m : Int) else -(h * 60 + m : Int))) := by
  have hm' : ¬ 59 < m := by omega
  have hd : ¬ 24 * 60 ≤ h * 60 + m := by omega
  unfold offset?
  rcases hsign with rfl | rfl <;> simp [hh, hm, hm', hd]

theorem offset?_offsetText {o : Int} (h : o.natAbs < 24 * 60) : offset? (offsetText o) = some (some o) := by
  obtain ⟨a, b, hab⟩ := padded_two (n := o.natAbs / 60) (by omega)
  have hhours := twoDigits?_padded (n := o.natAbs / 60) (by omega) (':' :: padded 2 (o.natAbs % 60))
  have hminutes := twoDigits?_padded (n := o.natAbs % 60) (by omega) []
  have hread := fun sign hsign => @offset?_signed sign a b _ _ _ hsign (hab ▸ hhours)
    (by rwa [List.append_nil] at hminutes) (by omega) (by omega)
  have hsum : ((o.natAbs / 60 : Nat) : Int) * 60 + (o.natAbs % 60 : Nat) = (o.natAbs : Int) := by omega
  unfold offsetText
  rw [hab]
  by_cases ho : o < 0
  · rw [if_pos ho]
    refine (hread '-' (.inr rfl)).trans (congrArg (some ∘ some) ?_)
    rw [if_neg (by decide), hsum]
    omega
  · rw [if_neg ho]
    refine (hread '+' (.inl rfl)).trans (congrArg (some ∘ some) ?_)
    rw [if_pos (by decide), hsum]
    omega

def offsetEnd : Option Int → List Char
  | none => []
  | some minutes => if minutes == 0 then ['Z'] else offsetText minutes

theorem offset?_offsetEnd {offset : Option Int} (h : ∀ o, offset = some o → o.natAbs < 24 * 60) :
    offset? (offsetEnd offset) = some offset := by
  cases offset with
  | none => rfl
  | some o =>
    unfold offsetEnd
    by_cases ho : o = 0
    · rw [ho]
      rfl
    · simp only [beq_false_of_ne ho, Bool.false_eq_true, if_false]
      exact offset?_offsetText (h o rfl)

theorem endsTime_offsetEnd (offset : Option Int) : EndsTime (offsetEnd offset) := by
  intro c hc
  cases offset with
  | none => cases hc
  | some o =>
    simp only [offsetEnd, offsetText] at hc
    by_cases hz : o = 0
    · rw [hz] at hc
      cases hc
      decide
    · rw [if_neg (by simpa using hz)] at hc
      by_cases ho : o < 0
      · rw [if_pos ho] at hc
        cases hc
        decide
      · rw [if_neg ho] at hc
        cases hc
        decide

/-! ## Moments -/

theorem toList_jsonText (m : Moment) : m.jsonText.toList =
    padded 4 m.year ++ '-' :: (padded 2 m.month ++ '-' :: (padded 2 m.day ++ 'T' :: (padded 2 m.hour ++
      ':' :: (padded 2 m.minute ++ ':' :: (padded 2 m.second ++ (fractionText m.micro ++ offsetEnd m.offset)))))) := by
  simp only [jsonText, String.toList_ofList, localText, fractionText, List.append_assoc, List.cons_append]
  cases m.offset <;> rfl

theorem read?_jsonText {m : Moment} (h : m.WellFormed) : read? m.jsonText = some m := by
  obtain ⟨hvalid, hoffset⟩ := h
  simp only [isValid, Bool.and_eq_true, decide_eq_true_eq] at hvalid
  obtain ⟨⟨⟨⟨⟨⟨⟨⟨⟨hy, hy'⟩, hm⟩, hm'⟩, hd⟩, hd'⟩, hh⟩, hmin⟩, hs⟩, hf⟩ := hvalid
  have hdate : dateTime? m.jsonText.toList = some m := by
    rw [toList_jsonText]
    unfold dateTime?
    rw [date?_padded ⟨hy, hy'⟩ ⟨hm, hm'⟩ ⟨hd, hd'⟩]
    simp [time?_padded hh hmin hs hf (endsTime_offsetEnd m.offset), offset?_offsetEnd hoffset]
  unfold read?
  simp only [hdate, Option.or]

/-! ## Universal time -/

/-- A moment of the calendar in universal time. -/
structure Universal (m : Moment) : Prop where
  valid : m.isValid = true
  offset : m.offset = some 0

instance (m : Moment) : Decidable m.Universal :=
  decidable_of_iff (m.isValid = true ∧ m.offset = some 0) ⟨fun ⟨h, i⟩ => ⟨h, i⟩, fun ⟨h, i⟩ => ⟨h, i⟩⟩

/-! ## Counting -/

def daysInYear (year : Nat) : Nat := if isLeap year then 366 else 365

/-- The days of all years before a year, from the year zero on. -/
def daysBeforeYear : Nat → Nat
  | 0 => 0
  | year + 1 => daysBeforeYear year + daysInYear year

/-- The days of all months of a year before a month. -/
def daysBeforeMonth (year : Nat) : Nat → Nat
  | 0 => 0
  | 1 => 0
  | month + 2 => daysBeforeMonth year (month + 1) + daysInMonth year (month + 1)

def days (m : Moment) : Nat := daysBeforeYear m.year + daysBeforeMonth m.year m.month + (m.day - 1)

/-- The microseconds from the start of the year zero up to a moment in universal time. -/
def instant (m : Moment) : Nat :=
  (((m.days * 24 + m.hour) * 60 + m.minute) * 60 + m.second) * 1000000 + m.micro

/-- The fields of a moment, the greatest first. -/
def fields (m : Moment) : List Nat := [m.year, m.month, m.day, m.hour, m.minute, m.second, m.micro]

theorem daysBeforeYear_le {a b : Nat} (h : a ≤ b) : daysBeforeYear a ≤ daysBeforeYear b := by
  induction h with
  | refl => exact Nat.le_refl _
  | step _ ih => exact Nat.le_trans ih (Nat.le_add_right ..)

theorem daysBeforeMonth_succ (year : Nat) {month : Nat} (h : 1 ≤ month) :
    daysBeforeMonth year (month + 1) = daysBeforeMonth year month + daysInMonth year month := by
  obtain ⟨month, rfl⟩ := Nat.exists_eq_add_of_le' h
  rfl

theorem daysBeforeMonth_le (year : Nat) {a b : Nat} (ha : 1 ≤ a) (h : a ≤ b) :
    daysBeforeMonth year a ≤ daysBeforeMonth year b := by
  induction h with
  | refl => exact Nat.le_refl _
  | @step b hab ih =>
    rw [Nat.succ_eq_add_one, daysBeforeMonth_succ year (Nat.le_trans ha hab)]
    exact Nat.le_trans ih (Nat.le_add_right ..)

/-- The twelve months make up the year. -/
theorem daysBeforeMonth_thirteen (year : Nat) : daysBeforeMonth year 13 = daysInYear year := by
  simp only [daysBeforeMonth, daysInMonth, daysInYear]
  cases isLeap year <;> rfl

variable {m n : Moment}

/-- The bounds of the fields of a moment. -/
structure Bounded (m : Moment) : Prop where
  year : m.year ≤ 9999
  month : 1 ≤ m.month ∧ m.month ≤ 12
  day : 1 ≤ m.day ∧ m.day ≤ daysInMonth m.year m.month
  lastDay : daysInMonth m.year m.month ≤ 31
  hour : m.hour < 24
  minute : m.minute < 60
  second : m.second < 60
  micro : m.micro < 1000000

theorem Universal.bounded (h : m.Universal) : m.Bounded := by
  have hvalid := h.valid
  simp only [isValid, Bool.and_eq_true, decide_eq_true_eq] at hvalid
  obtain ⟨⟨⟨⟨⟨⟨⟨⟨⟨-, hy⟩, hm⟩, hm'⟩, hd⟩, hd'⟩, hh⟩, hmin⟩, hs⟩, hf⟩ := hvalid
  have hlast : daysInMonth m.year m.month ≤ 31 := by
    unfold daysInMonth
    split
    · split <;> decide
    · split <;> decide
  exact ⟨hy, ⟨hm, hm'⟩, ⟨hd, hd'⟩, hlast, hh, hmin, hs, hf⟩

/-! ## Fields and instants -/

/-- Every day of a month lies before the next month. -/
theorem Bounded.days_lt_month (h : m.Bounded) :
    m.days < daysBeforeYear m.year + daysBeforeMonth m.year (m.month + 1) := by
  have hday := h.day
  rw [days, daysBeforeMonth_succ m.year h.month.1]
  omega

/-- Every day of a year lies before the next year. -/
theorem Bounded.days_lt_year (h : m.Bounded) : m.days < daysBeforeYear (m.year + 1) := by
  have hnext : 1 ≤ m.month + 1 ∧ m.month + 1 ≤ 13 := ⟨Nat.le_add_left .., Nat.succ_le_succ h.month.2⟩
  have hmonth := daysBeforeMonth_le m.year hnext.1 hnext.2
  have hlt := h.days_lt_month
  rw [daysBeforeMonth_thirteen] at hmonth
  rw [daysBeforeYear]
  omega

/-- Dates count their days in the order of year, month and day. -/
theorem days_lt (hm : m.Bounded) (h : [m.year, m.month, m.day] < [n.year, n.month, n.day]) :
    m.days < n.days := by
  simp only [List.cons_lt_cons_iff, List.not_lt_nil, and_false, or_false] at h
  rcases h with hyear | ⟨hyear, hmonth | ⟨hmonth, hday⟩⟩
  · have hnext : daysBeforeYear (m.year + 1) ≤ daysBeforeYear n.year := daysBeforeYear_le hyear
    have hlt := hm.days_lt_year
    unfold days at hlt ⊢
    omega
  · have hnext : daysBeforeMonth m.year (m.month + 1) ≤ daysBeforeMonth m.year n.month :=
      daysBeforeMonth_le m.year (Nat.le_add_left ..) hmonth
    have hlt := hm.days_lt_month
    unfold days at hlt ⊢
    rw [← hyear]
    omega
  · have hfirst := hm.day.1
    unfold days
    rw [← hyear, ← hmonth]
    omega

theorem instant_lt (hm : m.Universal) (h : m.fields < n.fields) : m.instant < n.instant := by
  have hdays := days_lt (n := n) hm.bounded
  obtain ⟨-, -, -, -, hhour, hminute, hsecond, hmicro⟩ := hm.bounded
  simp only [fields, List.cons_lt_cons_iff, List.not_lt_nil, and_false, or_false] at h hdays
  unfold instant
  rcases h with hlt | ⟨hyear, hlt | ⟨hmonth, hlt | ⟨hday, hrest⟩⟩⟩
  · have := hdays (.inl hlt)
    omega
  · have := hdays (.inr ⟨hyear, .inl hlt⟩)
    omega
  · have := hdays (.inr ⟨hyear, .inr ⟨hmonth, hlt⟩⟩)
    omega
  · have hsame : m.days = n.days := by
      unfold days
      rw [hyear, hmonth, hday]
    rw [hsame]
    rcases hrest with h | ⟨h, h' | ⟨h', h'' | ⟨h'', h'''⟩⟩⟩ <;> omega

/-! ## Fields and texts -/

theorem append_lt_append {a b : List Char} (hlength : a.length = b.length) (h : a < b) (r s : List Char) :
    a ++ r < b ++ s := by
  induction a generalizing b with
  | nil =>
    rw [List.length_nil, eq_comm, List.length_eq_zero_iff] at hlength
    rw [hlength] at h
    cases h
  | cons c a ih =>
    cases b with
    | nil => cases hlength
    | cons d b =>
      rw [List.cons_append, List.cons_append, List.cons_lt_cons_iff] at *
      rcases h with h | ⟨hcd, h⟩
      · exact .inl h
      · exact .inr ⟨hcd, ih (Nat.succ.inj hlength) h⟩

/-- The last digit stands behind the padded rest. -/
theorem padded_succ {w : Nat} (hw : 0 < w) (n : Nat) : padded (w + 1) n = padded w (n / 10) ++ [(n % 10).digitChar] := by
  dsimp only [padded]
  by_cases h : n < 10
  · obtain ⟨w, rfl⟩ := Nat.exists_eq_add_of_le' hw
    rw [Nat.toDigits_of_lt_base h, Nat.div_eq_of_lt h, Nat.mod_eq_of_lt h]
    simp [List.replicate_succ']
  · rw [Nat.toDigits_of_base_le (by decide) (Nat.not_lt.mp h), List.length_append, List.append_assoc]
    congr 2
    simp

theorem digitChar_lt {a b : Nat} (h : a < b) (hb : b < 10) : a.digitChar < b.digitChar := by
  have hall : ∀ b < 10, ∀ a < b, a.digitChar < b.digitChar := by decide
  exact hall b hb a h

/-- Numbers that are padded to one width are ordered as their digits. -/
theorem padded_lt {w : Nat} (hw : 0 < w) {a b : Nat} (h : a < b) (hb : b < 10 ^ w) : padded w a < padded w b := by
  induction w, hw using Nat.le_induction generalizing a b with
  | base =>
    have hone : ∀ n < 10, padded 1 n = [n.digitChar] := by decide
    rw [hone a (by omega), hone b (by omega), List.cons_lt_cons_iff]
    exact .inl (digitChar_lt h (by omega))
  | succ w hw ih =>
    have hrest : b / 10 < 10 ^ w := by
      rw [Nat.pow_succ] at hb
      omega
    have hlength : (padded w (a / 10)).length = (padded w (b / 10)).length := by
      rw [length_padded hw (show a / 10 < 10 ^ w by omega), length_padded hw hrest]
    rw [padded_succ hw, padded_succ hw]
    by_cases hlead : a / 10 = b / 10
    · rw [hlead]
      refine List.append_left_lt (List.cons_lt_cons_iff.mpr (.inl (digitChar_lt ?_ (Nat.mod_lt b (by decide)))))
      omega
    · exact append_lt_append hlength (ih (by omega) hrest) _ _

theorem padded_append_lt {w : Nat} (hw : 0 < w) {a b : Nat} (ha : a < 10 ^ w) (hb : b < 10 ^ w) {r s : List Char}
    (h : a < b ∨ a = b ∧ r < s) : padded w a ++ r < padded w b ++ s := by
  rcases h with h | ⟨rfl, h⟩
  · exact append_lt_append ((length_padded hw ha).trans (length_padded hw hb).symm) (padded_lt hw h hb) r s
  · exact List.append_left_lt h

/-- The sign that follows a time without a fraction stands before the point of one with it. -/
theorem fraction_lt {a b : Nat} (h : a < b) (hb : b < 1000000) (rest : List Char) :
    fractionText a ++ '+' :: rest < fractionText b ++ '+' :: rest := by
  have hpoint : fractionText b = '.' :: padded 6 b := if_neg (by simp; omega)
  rw [hpoint]
  by_cases ha : a = 0
  · rw [ha]
    exact List.cons_lt_cons_iff.mpr (.inl (by decide))
  · have hpoint' : fractionText a = '.' :: padded 6 a := if_neg (by simpa using ha)
    rw [hpoint', List.cons_append, List.cons_append, List.cons_lt_cons_iff]
    exact .inr ⟨rfl, padded_append_lt (by decide) (Nat.lt_trans h hb) hb (.inl h)⟩

theorem Universal.toList_isoText (h : m.Universal) : m.isoText.toList =
    padded 4 m.year ++ '-' :: (padded 2 m.month ++ '-' :: (padded 2 m.day ++ 'T' :: (padded 2 m.hour ++
      ':' :: (padded 2 m.minute ++ ':' :: (padded 2 m.second ++ (fractionText m.micro ++ '+' :: "00:00".toList)))))) := by
  have hoffset : (m.offset.map offsetText).getD [] = '+' :: "00:00".toList := by
    rw [h.offset]
    decide
  rw [isoText, hoffset]
  simp only [String.toList_ofList, localText, fractionText, List.append_assoc, List.cons_append]

theorem isoText_lt (hm : m.Universal) (hn : n.Universal) (h : m.fields < n.fields) : m.isoText < n.isoText := by
  have hmark : ∀ {c : Char} {r s : List Char}, r < s → c :: r < c :: s :=
    fun h => List.cons_lt_cons_iff.mpr (.inr ⟨rfl, h⟩)
  obtain ⟨hyear, hmonth, hday, hlast, hhour, hminute, hsecond, hmicro⟩ := hm.bounded
  obtain ⟨hyear', hmonth', hday', hlast', hhour', hminute', hsecond', hmicro'⟩ := hn.bounded
  simp only [fields, List.cons_lt_cons_iff, List.not_lt_nil, and_false, or_false] at h
  rw [String.lt_iff_toList_lt, hm.toList_isoText, hn.toList_isoText]
  -- Field by field: either this field decides, or it is the same in both and the next ones do.
  refine padded_append_lt (by decide) (by omega) (by omega) (h.imp_right (.imp_right fun h => hmark ?_))
  refine padded_append_lt (by decide) (by omega) (by omega) (h.imp_right (.imp_right fun h => hmark ?_))
  refine padded_append_lt (by decide) (by omega) (by omega) (h.imp_right (.imp_right fun h => hmark ?_))
  refine padded_append_lt (by decide) (by omega) (by omega) (h.imp_right (.imp_right fun h => hmark ?_))
  refine padded_append_lt (by decide) (by omega) (by omega) (h.imp_right (.imp_right fun h => hmark ?_))
  refine padded_append_lt (by decide) (by omega) (by omega) (h.imp_right (.imp_right fun h => ?_))
  exact fraction_lt h hmicro' _

/-! ## Instants and texts -/

theorem Universal.eq_of_fields (hm : m.Universal) (hn : n.Universal) (h : m.fields = n.fields) : m = n := by
  have hoffset := hm.offset.trans hn.offset.symm
  cases m
  cases n
  simp only [fields, List.cons.injEq, and_true] at h
  simp only [mk.injEq]
  exact ⟨h.1, h.2.1, h.2.2.1, h.2.2.2.1, h.2.2.2.2.1, h.2.2.2.2.2.1, h.2.2.2.2.2.2, hoffset⟩

/-- Of two moments in universal time the earlier one has the smaller text. -/
theorem isoText_lt_iff (hm : m.Universal) (hn : n.Universal) : m.isoText < n.isoText ↔ m.instant < n.instant := by
  rcases lt_trichotomy m.fields n.fields with h | h | h
  · exact iff_of_true (isoText_lt hm hn h) (instant_lt hm h)
  · rw [hm.eq_of_fields hn h]
    exact iff_of_false (String.lt_irrefl _) (Nat.lt_irrefl _)
  · exact iff_of_false (String.lt_asymm (isoText_lt hn hm h)) (Nat.lt_asymm (instant_lt hn h))

end SchemaConcord.Moment
