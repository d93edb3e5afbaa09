import Mathlib.Data.List.Infix
import SchemaConcord.Proofs.Text.Digits
import SchemaConcord.Source.Lexer

/-!
# Written words

A word is a token as it is written: a name, a keyword, a whole number, a text in quotes that needs no escapes, or an
operator. Where nothing follows that would belong to it, a word is cut off as its token (`token?_word`).
-/

namespace SchemaConcord.Source

open Text

inductive Word where
  | name (s : String)
  | keyword (s : String)
  | number (n : Nat)
  | text (s : String)
  /-- A text between three quotes on either side, which may have several lines. -/
  | doc (s : String)
  | op (s : String)
  deriving DecidableEq, Repr

/-- A character that stands for itself in a text, on its own line or not. -/
def Plain (c : Char) : Prop := c ≠ '"' ∧ c ≠ '\\' ∧ c ≠ '\r' ∧ c ≠ Char.ofNat 0

instance (c : Char) : Decidable (Plain c) := inferInstanceAs (Decidable (_ ∧ _ ∧ _ ∧ _))

/-- Operators that no other begins with, unless a character of `joining` follows. -/
def writtenOps : List String := ["(", ")", "[", "]", "\x7b", "\x7d", ",", ":", ".", "@", "=", "-", "*", "+", "|", "->"]

def joining : List Char := ['=', '>', '<', '*', '/', '.']

/-- A name as it is read, with compatible characters for its own. -/
def spelled (s : String) : String := String.ofList (compatible s.toList)

namespace Word

def chars : Word → List Char
  | .name s | .keyword s | .op s => s.toList
  | .number n => Nat.toDigits 10 n
  | .text s => '"' :: (s.toList ++ ['"'])
  | .doc s => '"' :: '"' :: '"' :: (s.toList ++ ['"', '"', '"'])

def token : Word → Token
  | .name s => .name (spelled s)
  | .keyword s => .keyword s
  | .number n => .number (some n)
  | .text s | .doc s => .literal false false false s.toList
  | .op s => .op s

def Sound : Word → Prop
  | .name s => isIdentifier s.toList = true ∧ s ∉ keywords
  | .keyword s => s ∈ keywords
  | .number n => (Nat.toDigits 10 n).length ≤ maxDigits
  | .text s => ∀ c ∈ s.toList, Plain c ∧ c ≠ '\n'
  | .doc s => ∀ c ∈ s.toList, Plain c
  | .op s => s ∈ writtenOps

instance : (w : Word) → Decidable w.Sound
  | .name s => inferInstanceAs (Decidable (isIdentifier s.toList = true ∧ s ∉ keywords))
  | .keyword s => inferInstanceAs (Decidable (s ∈ keywords))
  | .number n => inferInstanceAs (Decidable ((Nat.toDigits 10 n).length ≤ maxDigits))
  | .text s => s.toList.decidableBAll fun c => Plain c ∧ c ≠ '\n'
  | .doc s => s.toList.decidableBAll Plain
  | .op s => inferInstanceAs (Decidable (s ∈ writtenOps))

theorem Sound.escapeFree {s : String} (h : (Word.text s).Sound) : '\\' ∉ s.toList :=
  fun hc => (h _ hc).1.2.1 rfl

/-- Whether a word ends where a character follows. -/
def endsBefore (c : Char) : Word → Bool
  | .name _ | .keyword _ => !isNameByte c && c != '"' && c != '\''
  | .number _ => !isNameByte c && c != '.'
  | .text _ => c != '"'
  | .doc _ => true
  | .op s => !joining.contains c && !(s == "." && isAsciiDigit c)

/-- The brackets that are open after a word. -/
def after? (open_ : List Char) : Word → Option (List Char)
  | .op s => (s.toList.head?.bind fun c => bracket? { brackets := open_ } c).map (·.brackets)
  | _ => some open_

end Word

/-! ## Names -/

theorem isNameByte_of_isNamePart {c : Char} (h : isNamePart c = true) : isNameByte c = true := by
  unfold isNamePart at h
  unfold isNameByte
  split at h
  · simp only [Bool.or_eq_true] at h ⊢
    rcases h with (h | h) | h <;> simp [h]
  · next hascii => simp [hascii]

theorem isNamePart_of_isNameStart {c : Char} (h : isNameStart c = true) (hascii : isAscii c = true) :
    isNamePart c = true := by
  unfold isNameStart at h
  unfold isNamePart
  rw [if_pos hascii] at h ⊢
  rw [h, Bool.true_or]

theorem isNameByte_of_isNameStart {c : Char} (h : isNameStart c = true) : isNameByte c = true := by
  by_cases hascii : isAscii c = true
  · exact isNameByte_of_isNamePart (isNamePart_of_isNameStart h hascii)
  · simp [isNameByte, hascii]

theorem not_isAsciiDigit_of_isNameStart {c : Char} (h : isNameStart c = true) : isAsciiDigit c = false := by
  rw [← Bool.not_eq_true]
  intro hdigit
  have hn := isAsciiDigit_iff.mp hdigit
  have hascii : isAscii c = true := by
    simp only [isAscii, decide_eq_true_eq]
    omega
  unfold isNameStart at h
  rw [if_pos hascii] at h
  simp only [isAsciiLetter, isAsciiUpper, isAsciiLower, Bool.or_eq_true, Bool.and_eq_true, decide_eq_true_eq,
    Char.le_def, UInt32.le_iff_toNat_le, beq_iff_eq] at h
  rcases h with (h | h) | h
  · have : 65 ≤ c.toNat := h.1
    omega
  · have : 97 ≤ c.toNat := h.1
    omega
  · rw [h] at hn
    exact absurd hn (by decide)

theorem isNameByte_of_mem {w : List Char} (h : isIdentifier w = true) : ∀ c ∈ w, isNameByte c = true := by
  cases w with
  | nil => cases h
  | cons c w =>
    simp only [isIdentifier, Bool.and_eq_true, List.all_eq_true] at h
    intro d hd
    rcases List.mem_cons.mp hd with rfl | hd
    · exact isNameByte_of_isNameStart h.1
    · exact isNameByte_of_isNamePart (h.2 d hd)

theorem ne_quote_of_isNameByte {c : Char} (h : isNameByte c = true) : c ≠ '"' ∧ c ≠ '\'' := by
  constructor
  · rintro rfl
    cases h
  · rintro rfl
    cases h

/-- Letters are taken to stand before quotes only when quotes follow. -/
theorem literalStart?_name {w : List Char} (hw : ∀ c ∈ w, isNameByte c = true) {rest : List Char}
    (hrest : ∀ c ∈ rest.head?, isNameByte c = false ∧ c ≠ '"' ∧ c ≠ '\'') (m : LiteralMarks) :
    literalStart? m (w ++ rest) = none := by
  induction w generalizing m with
  | nil =>
    cases rest with
    | nil => rfl
    | cons c rest =>
      obtain ⟨hname, hquote, hsingle⟩ := hrest c rfl
      have hadd : m.add? c = none := by
        have hletter : ∀ d : Char, isNameByte d = true → (c == d) = false := by
          intro d hd
          rw [beq_eq_false_iff_ne]
          rintro rfl
          cases hname.symm.trans hd
        have h₁ := hletter 'b' rfl
        have h₂ := hletter 'B' rfl
        have h₃ := hletter 'u' rfl
        have h₄ := hletter 'U' rfl
        have h₅ := hletter 'r' rfl
        have h₆ := hletter 'R' rfl
        have h₇ := hletter 'f' rfl
        have h₈ := hletter 'F' rfl
        simp [LiteralMarks.add?, h₁, h₂, h₃, h₄, h₅, h₆, h₇, h₈]
      simp [literalStart?, hquote, hsingle, hadd]
  | cons c w ih =>
    obtain ⟨hquote, hsingle⟩ := ne_quote_of_isNameByte (hw c (List.mem_cons_self ..))
    have ih := fun m => ih (fun d hd => hw d (List.mem_cons_of_mem c hd)) m
    rw [List.cons_append, literalStart?]
    cases m.add? c with
    | none => simp [hquote, hsingle]
    | some m => simp [hquote, hsingle, ih m]

theorem token?_identifier {s : LexState} {w rest : List Char} (hw : isIdentifier w = true)
    (hrest : ∀ c ∈ rest.head?, isNameByte c = false ∧ c ≠ '"' ∧ c ≠ '\'') :
    token? s (w ++ rest) = some (nameToken w, s, rest) := by
  have hbytes := isNameByte_of_mem hw
  obtain ⟨htake, hdrop⟩ := takeWhile_run hbytes fun c hc => (hrest c hc).1
  have hliteral := literalStart?_name hbytes hrest {}
  cases w with
  | nil => cases hw
  | cons c w =>
    have hhead : isNameHeadByte c = true := by
      have hstart : isNameStart c = true := by
        simp only [isIdentifier, Bool.and_eq_true] at hw
        exact hw.1
      simp [isNameHeadByte, isNameByte_of_isNameStart hstart, not_isAsciiDigit_of_isNameStart hstart]
    rw [List.cons_append] at htake hdrop hliteral ⊢
    unfold token?
    simp only [hhead, Bool.true_or, if_true, hliteral, htake, hdrop, hw]

theorem nameToken_name {s : String} (h : s ∉ keywords) :
    nameToken s.toList = .name (spelled s) := by
  simp [nameToken, spelled, h]

theorem nameToken_keyword {s : String} (h : s ∈ keywords) : nameToken s.toList = .keyword s := by
  simp [nameToken, h]

theorem isIdentifier_of_mem_keywords : ∀ s ∈ keywords, isIdentifier s.toList = true := by
  decide +kernel

/-! ## Texts -/

theorem shortBody?_plain {body : List Char} (h : ∀ c ∈ body, Plain c ∧ c ≠ '\n') (rest : List Char) :
    shortBody? '"' false (body ++ '"' :: rest) = some (body, rest) := by
  induction body with
  | nil => simp [shortBody?]
  | cons c body ih =>
    obtain ⟨⟨hquote, hescape, -⟩, hline⟩ := h c (List.mem_cons_self ..)
    have ih := ih fun d hd => h d (List.mem_cons_of_mem c hd)
    have hbackslash : (c == '\\') = false := beq_false_of_ne hescape
    simp [shortBody?, hquote, hline, hbackslash, ih]

theorem longBody?_plain {body : List Char} (h : ∀ c ∈ body, Plain c) (rest : List Char) :
    longBody? '"' false (body ++ '"' :: '"' :: '"' :: rest) = some (body, rest) := by
  induction body with
  | nil => simp [longBody?]
  | cons c body ih =>
    obtain ⟨hquote, hescape, -⟩ := h c (List.mem_cons_self ..)
    have ih := ih fun d hd => h d (List.mem_cons_of_mem c hd)
    have hquote : (c == '"') = false := beq_false_of_ne hquote
    have hbackslash : (c == '\\') = false := beq_false_of_ne hescape
    rw [List.cons_append, longBody?]
    · simp [hbackslash, ih]
    · intro d e tail heq
      cases hquote.symm.trans heq

theorem token?_literal {s : LexState} {cs rest : List Char} {t : Token} (h : literal? {} ('"' :: cs) = some (t, rest)) :
    token? s ('"' :: cs) = some (t, s, rest) := by
  have hstart : literalStart? {} ('"' :: cs) = some ({}, '"' :: cs) := by simp [literalStart?]
  unfold token?
  simp [hstart, h]

/-- Quotes that are not three in a row begin a text on one line. -/
theorem literal?_short {cs : List Char} (h : cs.take 2 ≠ ['"', '"']) :
    literal? {} ('"' :: cs) = (shortBody? '"' false cs).map fun (b, tail) => (.literal false false false b, tail) := by
  unfold literal?
  match cs with
  | [] => rfl
  | [a] => rfl
  | a :: b :: more =>
    have hab : (a == '"' && b == '"') = false := by
      rw [← Bool.not_eq_true, Bool.and_eq_true, beq_iff_eq, beq_iff_eq]
      rintro ⟨rfl, rfl⟩
      exact h rfl
    simp only [hab, Bool.false_eq_true, if_false]

theorem literal?_text {body : List Char} (h : ∀ c ∈ body, Plain c ∧ c ≠ '\n') {rest : List Char}
    (hrest : ∀ c ∈ rest.head?, c ≠ '"') :
    literal? {} ('"' :: (body ++ '"' :: rest)) = some (.literal false false false body, rest) := by
  have hquotes : (body ++ '"' :: rest).take 2 ≠ ['"', '"'] := by
    intro htake
    cases body with
    | nil =>
      cases rest with
      | nil => cases htake
      | cons c rest =>
        cases htake
        exact hrest _ rfl rfl
    | cons c body =>
      obtain ⟨⟨hquote, -⟩, -⟩ := h c (List.mem_cons_self ..)
      simp only [List.cons_append, List.take_succ_cons, List.cons.injEq] at htake
      exact hquote htake.1
  rw [literal?_short hquotes, shortBody?_plain h]
  rfl

theorem literal?_doc {body : List Char} (h : ∀ c ∈ body, Plain c) (rest : List Char) :
    literal? {} ('"' :: '"' :: '"' :: (body ++ '"' :: '"' :: '"' :: rest)) =
      some (.literal false false false body, rest) := by
  simp [literal?, longBody?_plain h]

/-! ## Numbers -/

theorem digitTail?_digits {ds : List Char} (h : ∀ c ∈ ds, isAsciiDigit c = true) {rest : List Char}
    (hrest : ∀ c ∈ rest.head?, isNameByte c = false) : digitTail? isAsciiDigit (ds ++ rest) = some (ds, rest) := by
  induction ds with
  | nil =>
    cases rest with
    | nil => rfl
    | cons c rest =>
      have hc := hrest c rfl
      simp only [isNameByte, Bool.or_eq_false_iff] at hc
      simp [digitTail?, hc]
  | cons c ds ih =>
    have ih := ih fun d hd => h d (List.mem_cons_of_mem c hd)
    simp [digitTail?, h c (List.mem_cons_self ..), ih]

theorem hexValue?_digit {c : Char} (h : isAsciiDigit c = true) : hexValue? c = some (c.toNat - 48) := by
  rw [hexValue?, if_pos h]

theorem digitsIn_toDigits (n : Nat) : digitsIn 10 (Nat.toDigits 10 n) = n := by
  have hfold : ∀ (ds : List Char) (m : Nat), (∀ c ∈ ds, isAsciiDigit c = true) →
      ds.foldl (fun (n : Int) d => n * (10 : Nat) + ((hexValue? d).getD 0 : Nat)) m = (Nat.ofDigitChars 10 ds m : Nat) := by
    intro ds
    induction ds with
    | nil => exact fun _ _ => rfl
    | cons c ds ih =>
      intro m hds
      rw [List.foldl_cons, hexValue?_digit (hds c (List.mem_cons_self ..)), Nat.ofDigitChars_cons,
        ← ih _ fun d hd => hds d (List.mem_cons_of_mem c hd)]
      congr 1
      show (m : Int) * (10 : Nat) + ((c.toNat - 48 : Nat) : Int) = ((10 * m + (c.toNat - '0'.toNat) : Nat) : Int)
      have : '0'.toNat = 48 := rfl
      omega
  have := hfold (Nat.toDigits 10 n) 0 fun c hc => isAsciiDigit_toDigits hc
  rw [Nat.ofDigitChars_ten_toDigits] at this
  exact this

/-- A zero in front stands alone. -/
theorem isNameByte_after_zero {n : Nat} {rest : List Char} (hrest : ∀ c ∈ rest.head?, isNameByte c = false) {c : Char}
    {more : List Char} (h : Nat.toDigits 10 n ++ rest = '0' :: c :: more) : isNameByte c = false := by
  have hn : n = 0 := by
    refine head?_toDigits n ?_
    cases hds : Nat.toDigits 10 n with
    | nil => exact absurd hds Nat.toDigits_ne_nil
    | cons d ds =>
      rw [hds] at h
      rw [List.head?_cons, (List.cons.inj h).1]
  rw [hn] at h
  have hrest' : rest = c :: more := (List.cons.inj h).2
  rw [hrest'] at hrest
  exact hrest c rfl

theorem not_leadingZero (n : Nat) : ((Nat.toDigits 10 n).head? == some '0' &&
    !((Nat.toDigits 10 n).dropWhile (· == '0')).isEmpty) = false := by
  rw [← Bool.not_eq_true, Bool.and_eq_true, beq_iff_eq]
  rintro ⟨hhead, hsignificant⟩
  rw [head?_toDigits n hhead] at hsignificant
  cases hsignificant

theorem number?_digits {n : Nat} (h : (Nat.toDigits 10 n).length ≤ maxDigits) {rest : List Char}
    (hrest : ∀ c ∈ rest.head?, isNameByte c = false ∧ c ≠ '.') :
    number? (Nat.toDigits 10 n ++ rest) = some (some (n : Int), rest) := by
  have hname : ∀ c ∈ rest.head?, isNameByte c = false := fun c hc => (hrest c hc).1
  have htail := digitTail?_digits (fun c (hc : c ∈ Nat.toDigits 10 n) => isAsciiDigit_toDigits hc) hname
  have hlength : decide (maxDigits < (Nat.toDigits 10 n).length) = false := by
    simpa using h
  unfold number?
  split
  case h_7 =>
    rw [htail]
    simp only [Option.bind_eq_bind, Option.bind_some, digitsIn_toDigits, not_leadingZero n, hlength]
    cases rest with
    | nil => rfl
    | cons c rest =>
      obtain ⟨hname, hdot⟩ := hrest c rfl
      have hletter : ∀ d : Char, isNameByte d = true → (c == d) = false := by
        intro d hd
        rw [beq_eq_false_iff_ne]
        rintro rfl
        cases hname.symm.trans hd
      have hexponent : (c == 'e' || c == 'E') = false := by rw [hletter 'e' rfl, hletter 'E' rfl]; rfl
      have himaginary : (c == 'j' || c == 'J') = false := by rw [hletter 'j' rfl, hletter 'J' rfl]; rfl
      have hend : numberEnd? (some (n : Int)) (c :: rest) = some (some (n : Int), c :: rest) := by
        simp [numberEnd?, hname]
      split
      · next heq =>
        cases heq
        exact absurd rfl hdot
      · next heq =>
        cases heq
        simp only [hexponent, himaginary, Bool.false_eq_true, if_false, Bool.or_self, hend]
      · next heq => cases heq
  -- The other notations begin with a zero and a letter.
  all_goals
    next heq => cases isNameByte_after_zero hname heq

theorem token?_number {s : LexState} {n : Nat} (h : (Nat.toDigits 10 n).length ≤ maxDigits) {rest : List Char}
    (hrest : ∀ c ∈ rest.head?, isNameByte c = false ∧ c ≠ '.') :
    token? s (Nat.toDigits 10 n ++ rest) = some (.number (some n), s, rest) := by
  have hnumber := number?_digits h hrest
  cases hds : Nat.toDigits 10 n with
  | nil => exact absurd hds Nat.toDigits_ne_nil
  | cons c ds =>
    have hdigit : isAsciiDigit c = true := isAsciiDigit_toDigits (n := n) (by rw [hds]; exact List.mem_cons_self ..)
    have hhead : isNameHeadByte c = false := by simp [isNameHeadByte, hdigit]
    have hquote : (c == '"' || c == '\'') = false := by
      rw [← Bool.not_eq_true, Bool.or_eq_true, beq_iff_eq, beq_iff_eq]
      rintro (rfl | rfl) <;> cases hdigit
    rw [hds, List.cons_append] at hnumber
    rw [List.cons_append]
    unfold token?
    simp only [hhead, Bool.false_or, hquote, Bool.false_eq_true, if_false, hdigit, if_true, hnumber, Option.map_some]

/-! ## Operators -/

/-- The operators that are tried before one. -/
def opsBefore (w : String) : List String := operators.takeWhile (· != w)

theorem operators_split : ∀ w ∈ writtenOps, (operators.dropWhile (· != w)).head? = some w := by
  decide +kernel

theorem not_prefix_written : ∀ w ∈ writtenOps, ∀ v ∈ opsBefore w, ¬ v.toList <+: w.toList := by
  decide +kernel

theorem joining_of_longer : ∀ w ∈ writtenOps, ∀ v ∈ opsBefore w, w.toList <+: v.toList →
    (joining.any fun c => (w.toList ++ [c]).isPrefixOf v.toList) = true := by
  decide +kernel

/-- No operator that is tried before begins a text that begins with a written one. -/
theorem not_prefix_append {w v : String} (hw : w ∈ writtenOps) (hv : v ∈ opsBefore w) {rest : List Char}
    (hrest : ∀ c ∈ rest.head?, joining.contains c = false) : ¬ v.toList <+: w.toList ++ rest := by
  intro h
  rcases List.prefix_or_prefix_of_prefix h (List.prefix_append w.toList rest) with h' | h'
  · exact not_prefix_written w hw v hv h'
  · obtain ⟨c, hc, h'⟩ := List.any_eq_true.mp (joining_of_longer w hw v hv h')
    have hlonger : w.toList ++ [c] <+: w.toList ++ rest := (List.isPrefixOf_iff_prefix.mp h').trans h
    obtain ⟨more, rfl⟩ := (List.prefix_append_right_inj w.toList).mp hlonger
    cases (List.contains_iff_mem.mpr hc).symm.trans (hrest c rfl)

theorem operator?_written {w : String} (hw : w ∈ writtenOps) {rest : List Char}
    (hrest : ∀ c ∈ rest.head?, joining.contains c = false) : operator? (w.toList ++ rest) = some (w, rest) := by
  obtain ⟨after, hafter⟩ : ∃ after, operators.dropWhile (· != w) = w :: after := by
    have := operators_split w hw
    cases hdrop : operators.dropWhile (· != w) with
    | nil => rw [hdrop] at this; cases this
    | cons v after =>
      rw [hdrop] at this
      cases this
      exact ⟨after, rfl⟩
  have hsplit : operators = opsBefore w ++ w :: after := by
    rw [← hafter]
    exact List.takeWhile_append_dropWhile.symm
  unfold operator?
  refine List.findSome?_eq_some_iff.mpr ⟨opsBefore w, w, after, hsplit, ?_, fun v hv => ?_⟩
  · rw [List.isPrefixOf?_eq_some_iff_append_eq.mpr rfl]
    rfl
  · cases hprefix : v.toList.isPrefixOf? (w.toList ++ rest) with
    | none => rfl
    | some more =>
      exact absurd ⟨more, List.isPrefixOf?_eq_some_iff_append_eq.mp hprefix⟩ (not_prefix_append hw hv hrest)

theorem head_of_mem_writtenOps : ∀ w ∈ writtenOps, ∃ c cs, w.toList = c :: cs ∧ isNameHeadByte c = false ∧
    c ≠ '"' ∧ c ≠ '\'' ∧ isAsciiDigit c = false ∧ w ≠ "!" ∧ (c = '.' → w = ".") := by
  intro w hw
  simp only [writtenOps, List.mem_cons, List.not_mem_nil, or_false] at hw
  rcases hw with rfl | rfl | rfl | rfl | rfl | rfl | rfl | rfl | rfl | rfl | rfl | rfl | rfl | rfl | rfl | rfl
  all_goals exact ⟨_, _, rfl, by decide⟩

theorem token?_op {s s' : LexState} {w : String} (hw : w ∈ writtenOps) {rest : List Char}
    (hrest : ∀ c ∈ rest.head?, (Word.op w).endsBefore c = true) (hs : w.toList.head?.bind (bracket? s) = some s') :
    token? s (w.toList ++ rest) = some (.op w, s', rest) := by
  have hoperator : operator? (w.toList ++ rest) = some (w, rest) := by
    refine operator?_written hw fun c hc => ?_
    have := hrest c hc
    simp only [Word.endsBefore, Bool.and_eq_true, Bool.not_eq_true'] at this
    exact this.1
  obtain ⟨c, cs, hlist, hname, hquote, hsingle, hdigit, hbang, hdot⟩ := head_of_mem_writtenOps w hw
  have hfraction : (c == '.' && ((cs ++ rest).head?.map isAsciiDigit).getD false) = false := by
    rw [← Bool.not_eq_true, Bool.and_eq_true, beq_iff_eq]
    rintro ⟨hc, hnumber⟩
    obtain rfl := hdot hc
    cases hlist
    cases rest with
    | nil => cases hnumber
    | cons d rest =>
      have hd := hrest d rfl
      have hnumber : isAsciiDigit d = true := hnumber
      simp [Word.endsBefore, hnumber] at hd
  rw [hlist] at hs hoperator ⊢
  have hs : bracket? s c = some s' := hs
  rw [List.cons_append] at hoperator ⊢
  have hquotes : (c == '"' || c == '\'') = false := by simp [hquote, hsingle]
  unfold token?
  simp only [hname, Bool.false_or, hquotes, hdigit, hfraction, hoperator, hs, Bool.false_eq_true, if_false, Option.bind_eq_bind,
    Option.bind_some, beq_eq_false_iff_ne.mpr hbang]
  rfl

/-! ## Words -/

theorem bracket?_eq (s : LexState) (c : Char) :
    bracket? s c = (bracket? { brackets := s.brackets } c).map fun b => { s with brackets := b.brackets } := by
  unfold bracket?
  dsimp only
  repeat' split
  all_goals rfl

theorem token?_word {s : LexState} {w : Word} (hw : w.Sound) {open_ : List Char} (hopen : w.after? s.brackets = some open_)
    {rest : List Char} (hrest : ∀ c ∈ rest.head?, w.endsBefore c = true) :
    token? s (w.chars ++ rest) = some (w.token, { s with brackets := open_ }, rest) := by
  cases w with
  | name n =>
    cases hopen
    have hends : ∀ c ∈ rest.head?, isNameByte c = false ∧ c ≠ '"' ∧ c ≠ '\'' := by
      intro c hc
      simpa [Word.endsBefore, and_assoc] using hrest c hc
    have h := token?_identifier (s := s) hw.1 hends
    rw [nameToken_name hw.2] at h
    exact h
  | keyword n =>
    cases hopen
    have hends : ∀ c ∈ rest.head?, isNameByte c = false ∧ c ≠ '"' ∧ c ≠ '\'' := by
      intro c hc
      simpa [Word.endsBefore, and_assoc] using hrest c hc
    have h := token?_identifier (s := s) (isIdentifier_of_mem_keywords n hw) hends
    rw [nameToken_keyword hw] at h
    exact h
  | number n =>
    cases hopen
    exact token?_number hw fun c hc => by simpa [Word.endsBefore] using hrest c hc
  | text body =>
    cases hopen
    have h := literal?_text hw fun c hc => by simpa [Word.endsBefore] using hrest c hc
    have := token?_literal (s := s) h
    rw [Word.chars, List.cons_append, List.append_assoc]
    exact this
  | doc body =>
    cases hopen
    have := token?_literal (s := s) (literal?_doc hw rest)
    rw [Word.chars, List.cons_append, List.cons_append, List.cons_append, List.append_assoc]
    exact this
  -- Only an operator can open or close a bracket.
  | op w =>
    refine token?_op hw hrest ?_
    cases hhead : w.toList.head? with
    | none => rw [Word.after?, hhead] at hopen; cases hopen
    | some c =>
      rw [Word.after?, hhead] at hopen
      show bracket? s c = _
      rw [bracket?_eq]
      cases hb : bracket? { brackets := s.brackets } c with
      | none => simp [hb] at hopen
      | some b =>
        have hopen : b.brackets = open_ := by simpa [hb] using hopen
        rw [← hopen]
        rfl

end SchemaConcord.Source
