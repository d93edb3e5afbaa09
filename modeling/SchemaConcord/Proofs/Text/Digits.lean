import SchemaConcord.Decimal.Read
import SchemaConcord.Json.Parser
import SchemaConcord.Proofs.Text.Edit

/-!
# Decimal digits

ASCII digits and letters are ranges of codes. The decimal digits of a number are ASCII digits, start with a zero for zero
only, and are read back as the number.
-/

namespace SchemaConcord

open Text

namespace Text

theorem isAsciiDigit_iff {c : Char} : isAsciiDigit c = true ↔ 48 ≤ c.toNat ∧ c.toNat ≤ 57 := by
  simp only [isAsciiDigit, Bool.and_eq_true, decide_eq_true_eq, Char.le_def, UInt32.le_iff_toNat_le]
  exact Iff.rfl

theorem isAsciiUpper_iff {c : Char} : isAsciiUpper c = true ↔ 65 ≤ c.toNat ∧ c.toNat ≤ 90 := by
  simp only [isAsciiUpper, Bool.and_eq_true, decide_eq_true_eq, Char.le_def, UInt32.le_iff_toNat_le]
  exact Iff.rfl

theorem isAsciiLower_iff {c : Char} : isAsciiLower c = true ↔ 97 ≤ c.toNat ∧ c.toNat ≤ 122 := by
  simp only [isAsciiLower, Bool.and_eq_true, decide_eq_true_eq, Char.le_def, UInt32.le_iff_toNat_le]
  exact Iff.rfl

theorem isAsciiDigit_toDigits {n : Nat} {c : Char} (h : c ∈ Nat.toDigits 10 n) : isAsciiDigit c = true := by
  have := Nat.isDigit_of_mem_toDigits (by decide) (by decide) h
  simp only [Char.isDigit, Bool.and_eq_true, decide_eq_true_eq, ge_iff_le, UInt32.le_iff_toNat_le] at this
  exact isAsciiDigit_iff.mpr this

theorem digitValue?_of_isAsciiDigit {c : Char} (h : isAsciiDigit c = true) : digitValue? c = some (c.toNat - 48) := by
  rw [digitValue?, if_pos h]

end Text

theorem natOfDigits_eq : ∀ {ds : List Char}, (∀ c ∈ ds, isAsciiDigit c = true) →
    natOfDigits ds = Nat.ofDigitChars 10 ds 0 := by
  have h : ∀ (ds : List Char) (n : Nat), (∀ c ∈ ds, isAsciiDigit c = true) →
      ds.foldl (fun n c => n * 10 + (digitValue? c).getD 0) n = Nat.ofDigitChars 10 ds n := by
    intro ds
    induction ds with
    | nil => intro n _; rfl
    | cons c ds ih =>
      intro n hd
      rw [List.foldl_cons, ih _ fun d hm => hd d (List.mem_cons_of_mem c hm), Nat.ofDigitChars_cons,
        digitValue?_of_isAsciiDigit (hd c (List.mem_cons_self ..)), Option.getD_some, Nat.mul_comm]
      rfl
  intro ds hd
  exact h ds 0 hd

theorem head?_toDigits (n : Nat) : (Nat.toDigits 10 n).head? = some '0' → n = 0 := by
  induction n using Nat.strongRecOn with
  | ind n ih =>
    intro h
    by_cases hn : n < 10
    · rw [Nat.toDigits_of_lt_base hn] at h
      have : ∀ m, m < 10 → m.digitChar = '0' → m = 0 := by decide
      exact this n hn (by simpa using h)
    · obtain ⟨c, cs, hc⟩ := List.exists_cons_of_ne_nil (Nat.toDigits_ne_nil (n := n / 10) (b := 10))
      rw [Nat.toDigits_of_base_le (by decide) (by omega), hc, List.cons_append, List.head?_cons] at h
      have := ih (n / 10) (by omega) (by rw [hc, List.head?_cons, h])
      omega

namespace Json

theorem natOf_toDigits (n : Nat) : natOf (Nat.toDigits 10 n) = n := by
  have h : ∀ (ds : List Char) (n : Nat),
      ds.foldl (fun n c => n * 10 + (c.toNat - 48)) n = Nat.ofDigitChars 10 ds n := by
    intro ds
    induction ds with
    | nil => intro n; rfl
    | cons c ds ih =>
      intro n
      rw [List.foldl_cons, ih, Nat.ofDigitChars_cons, Nat.mul_comm]
      rfl
  rw [natOf, h, Nat.ofDigitChars_ten_toDigits]

/-- A character that may follow a whole number without belonging to it. -/
abbrev Follows (c : Char) : Prop := isAsciiDigit c = false ∧ c ≠ '.' ∧ c ≠ 'e' ∧ c ≠ 'E'

/-- A text that may follow a whole number without belonging to it. -/
def Stops (t : List Char) : Prop := ∀ c ∈ t.head?, Follows c

theorem number?_toDigits (negative : Bool) (n : Nat) {t : List Char} (ht : Stops t) :
    number? negative (Nat.toDigits 10 n ++ t) = some (.int (if negative then -(n : Int) else n), t) := by
  obtain ⟨htake, hdrop⟩ := takeWhile_run (fun c (h : c ∈ Nat.toDigits 10 n) => isAsciiDigit_toDigits h)
    fun c hc => (ht c hc).1
  have hne : (Nat.toDigits 10 n).isEmpty = false := by simp
  have hzero : (decide (1 < (Nat.toDigits 10 n).length) && (Nat.toDigits 10 n).head? == some '0') = false := by
    rw [Bool.and_eq_false_iff, decide_eq_false_iff_not]
    by_cases hh : (Nat.toDigits 10 n).head? = some '0'
    · left
      rw [head?_toDigits n hh]
      decide
    · right
      simpa using hh
  have hfraction : fraction? t = some (none, t) := by
    cases t with
    | nil => rfl
    | cons c t =>
      have := (ht c rfl).2.1
      rw [fraction?]
      intro rest h
      exact this (List.cons.inj h).1
  have hexponent : exponent? t = some (none, t) := by
    cases t with
    | nil => rfl
    | cons c t =>
      have h₁ : (c == 'e') = false := beq_false_of_ne (ht c rfl).2.2.1
      have h₂ : (c == 'E') = false := beq_false_of_ne (ht c rfl).2.2.2
      unfold exponent?
      simp only [h₁, h₂, Bool.or_self, Bool.false_eq_true, if_false]
  unfold number?
  simp only [htake, hdrop, hne, hzero, Bool.or_self, Bool.false_eq_true, if_false, hfraction, hexponent,
    Option.bind_eq_bind, Option.bind_some, natOf_toDigits, Option.pure_def]

end Json

end SchemaConcord
