import SchemaConcord.Json.Parser
import SchemaConcord.Json.Printer

/-!
# Quoted texts read back

`stringRest?_quote`: after the opening quote of a written text, the reader finds the characters of the text and what
follows its closing quote, whatever the characters are.
-/

namespace SchemaConcord.Json

open Text

theorem hexValue?_hexDigit : ∀ n, n < 16 → hexValue? (hexDigit n) = some n := by decide

def unitDigits (n : Nat) : List Char :=
  [hexDigit (n / 4096 % 16), hexDigit (n / 256 % 16), hexDigit (n / 16 % 16), hexDigit (n % 16)]

theorem length_unitDigits (n : Nat) : (unitDigits n).length = 4 := rfl

theorem unitEscape_eq (n : Nat) : unitEscape n = '\\' :: 'u' :: unitDigits n := rfl

theorem unit?_unitDigits {n : Nat} (h : n < 65536) (t : List Char) : unit? (unitDigits n ++ t) = some n := by
  have h₁ := hexValue?_hexDigit (n / 4096 % 16) (by omega)
  have h₂ := hexValue?_hexDigit (n / 256 % 16) (by omega)
  have h₃ := hexValue?_hexDigit (n / 16 % 16) (by omega)
  have h₄ := hexValue?_hexDigit (n % 16) (by omega)
  have hn : n / 4096 % 16 * 4096 + n / 256 % 16 * 256 + n / 16 % 16 * 16 + n % 16 = n := by omega
  simp only [unitDigits, List.cons_append, List.nil_append, unit?, h₁, h₂, h₃, h₄, Option.bind_eq_bind,
    Option.bind_some, Option.pure_def, hn]

theorem toNat_scalar (c : Char) : c.toNat < 55296 ∨ 57343 < c.toNat ∧ c.toNat < 1114112 := c.valid

/-! ## Escapes -/

theorem stringRest?_skip : ∀ (l t : List Char), stringRest? l.length (l ++ t) = stringRest? 0 t
  | [], _ => rfl
  | c :: l, t => by
    rw [List.cons_append, List.length_cons, stringRest?]
    exact stringRest?_skip l t

theorem stringRest?_escape {l : List Char} {c : Char} {t : List Char}
    (h : readEscape? (l ++ t) = some (c, l.length)) :
    stringRest? 0 ('\\' :: (l ++ t)) = (stringRest? 0 t).map fun r => (c :: r.1, r.2) := by
  rw [stringRest?]
  simp only [h, stringRest?_skip, Char.reduceBEq, Bool.false_eq_true, if_false, BEq.rfl, if_true, Option.bind_eq_bind,
    Option.bind_some, Option.pure_def]
  cases stringRest? 0 t <;> rfl

theorem readEscape?_unit {c : Char} (h : c.toNat < 65536) (t : List Char) :
    readEscape? ('u' :: unitDigits c.toNat ++ t) = some (c, 5) := by
  have hc : isHigh c.toNat = false ∧ isLow c.toNat = false := by
    have := toNat_scalar c
    unfold isHigh isLow
    simp only [Bool.and_eq_false_iff, decide_eq_false_iff_not]
    omega
  rw [List.cons_append, readEscape?, unit?_unitDigits h]
  simp only [Option.bind_eq_bind, Option.bind_some, hc.1, hc.2, Bool.false_eq_true, if_false, Option.pure_def,
    Char.ofNat_toNat]

/-- Two escapes in a row, of a high unit and a low one. -/
theorem readEscape?_pair {cs more : List Char} {n m : Nat} (hn : unit? cs = some n) (hm : unit? more = some m)
    (hcs : cs.drop 4 = '\\' :: 'u' :: more) (hh : isHigh n = true) (hl : isLow m = true) :
    readEscape? ('u' :: cs) = some (Char.ofNat (65536 + (n - 55296) * 1024 + (m - 56320)), 11) := by
  rw [readEscape?, hn]
  simp only [Option.bind_eq_bind, Option.bind_some, hh, hcs, hm, hl, if_true, Option.pure_def]

theorem readEscape?_surrogates {c : Char} (h : 65536 ≤ c.toNat) (t : List Char) :
    readEscape? ('u' :: (unitDigits (55296 + (c.toNat - 65536) / 1024) ++
      (unitEscape (56320 + (c.toNat - 65536) % 1024) ++ t))) = some (c, 11) := by
  obtain ⟨n, hn⟩ : ∃ n, n = 55296 + (c.toNat - 65536) / 1024 := ⟨_, rfl⟩
  obtain ⟨m, hm⟩ : ∃ m, m = 56320 + (c.toNat - 65536) % 1024 := ⟨_, rfl⟩
  have hc := toNat_scalar c
  have hh : isHigh n = true := by
    unfold isHigh
    simp only [Bool.and_eq_true, decide_eq_true_eq]
    omega
  have hl : isLow m = true := by
    unfold isLow
    simp only [Bool.and_eq_true, decide_eq_true_eq]
    omega
  rw [← hn, ← hm, unitEscape_eq, List.cons_append, List.cons_append,
    readEscape?_pair (unit?_unitDigits (by omega) _) (unit?_unitDigits (by omega) t)
      (List.drop_left' (length_unitDigits n)) hh hl,
    show 65536 + (n - 55296) * 1024 + (m - 56320) = c.toNat by omega, Char.ofNat_toNat]

/-! ## Characters and texts -/

theorem stringRest?_plain {c : Char} (h₁ : c ≠ '"') (h₂ : c ≠ '\\') (h : 32 ≤ c.toNat) (t : List Char) :
    stringRest? 0 (c :: t) = (stringRest? 0 t).map fun r => (c :: r.1, r.2) := by
  have h₁ : (c == '"') = false := beq_false_of_ne h₁
  have h₂ : (c == '\\') = false := beq_false_of_ne h₂
  have h₃ : ¬ c.toNat < 32 := by omega
  rw [stringRest?]
  simp only [h₁, h₂, h₃, Bool.false_eq_true, if_false, Option.bind_eq_bind, Option.pure_def]
  cases stringRest? 0 t <;> rfl

theorem stringRest?_escapeChar (c : Char) (t : List Char) :
    stringRest? 0 (escapeChar c ++ t) = (stringRest? 0 t).map fun r => (c :: r.1, r.2) := by
  -- One case for each way in which a character is written; the last is a pair of surrogates.
  unfold escapeChar
  split
  · next h => rw [beq_iff_eq] at h; subst h; exact stringRest?_escape (l := ['"']) rfl
  split
  · next h => rw [beq_iff_eq] at h; subst h; exact stringRest?_escape (l := ['\\']) rfl
  split
  · next h => rw [beq_iff_eq] at h; subst h; exact stringRest?_escape (l := ['n']) rfl
  split
  · next h => rw [beq_iff_eq] at h; subst h; exact stringRest?_escape (l := ['r']) rfl
  split
  · next h => rw [beq_iff_eq] at h; subst h; exact stringRest?_escape (l := ['t']) rfl
  split
  · next h =>
    rw [beq_iff_eq] at h
    refine stringRest?_escape (l := ['b']) ?_
    rw [← Char.ofNat_toNat c, h]; rfl
  split
  · next h =>
    rw [beq_iff_eq] at h
    refine stringRest?_escape (l := ['f']) ?_
    rw [← Char.ofNat_toNat c, h]; rfl
  split
  · next hq hb _ _ _ _ _ h =>
    simp only [Bool.and_eq_true, decide_eq_true_eq] at h
    exact stringRest?_plain (by simpa using hq) (by simpa using hb) h.1 t
  split
  · next h => exact stringRest?_escape (l := 'u' :: unitDigits c.toNat) (readEscape?_unit h t)
  · next h =>
    have hc : 65536 ≤ c.toNat := by omega
    dsimp only
    rw [unitEscape_eq (55296 + _), List.cons_append, List.cons_append, List.cons_append]
    refine stringRest?_escape (l := 'u' :: (unitDigits _ ++ unitEscape _)) ?_
    rw [List.cons_append, List.append_assoc]
    exact readEscape?_surrogates hc t

theorem stringRest?_quote : ∀ (cs t : List Char), stringRest? 0 (cs.flatMap escapeChar ++ '"' :: t) = some (cs, t)
  | [], t => by
    rw [List.flatMap_nil, List.nil_append, stringRest?]
    rfl
  | c :: cs, t => by
    rw [List.flatMap_cons, List.append_assoc, stringRest?_escapeChar, stringRest?_quote cs t]
    rfl

/-! ## Only printable characters -/

/-- A character of ASCII that is no control. -/
def IsPrintable (c : Char) : Prop := 32 ≤ c.toNat ∧ c.toNat < 127

instance : DecidablePred IsPrintable := fun c => inferInstanceAs (Decidable (32 ≤ c.toNat ∧ c.toNat < 127))

theorem isPrintable_hexDigit : ∀ n, n < 16 → IsPrintable (hexDigit n) := by decide

theorem isPrintable_unitEscape (n : Nat) : ∀ c ∈ unitEscape n, IsPrintable c := by
  simp only [unitEscape, List.forall_mem_cons]
  refine ⟨by decide, by decide, ?_, ?_, ?_, ?_, by simp⟩ <;> exact isPrintable_hexDigit _ (by omega)

theorem isPrintable_escapeChar (c : Char) : ∀ d ∈ escapeChar c, IsPrintable d := by
  unfold escapeChar
  iterate 7 split; simp [IsPrintable]
  split
  · next h =>
    simp only [Bool.and_eq_true, decide_eq_true_eq] at h
    exact List.forall_mem_singleton.mpr h
  split
  · exact isPrintable_unitEscape _
  · intro d hd
    rcases List.mem_append.mp hd with hd | hd <;> exact isPrintable_unitEscape _ d hd

theorem isPrintable_quote (cs : List Char) : ∀ c ∈ quote cs, IsPrintable c := by
  intro c hc
  simp only [quote, List.mem_cons, List.mem_append, List.mem_flatMap, List.not_mem_nil, or_false] at hc
  rcases hc with rfl | ⟨d, _, hc⟩ | rfl
  · decide
  · exact isPrintable_escapeChar d c hc
  · decide

end SchemaConcord.Json
