import SchemaConcord.Proofs.Text.Digits
import SchemaConcord.Text.Percent

/-!
# Percent encoding read back

The bytes of a text are decoded to the text (`decodeLeniently_encode`), and a text that is percent encoded with nothing
declared safe is read back as it was (`percentDecode_percentEncode`). It then holds plain characters and percent signs
only (`isCoded_percentEncode`), so that none of its characters divides an address.
-/

namespace SchemaConcord.Text

/-! ## Bytes of a character -/

theorem isContinuation_iff {b : UInt8} : isContinuation b = true ↔ 128 ≤ b.toNat ∧ b.toNat < 192 := by
  simp only [isContinuation, Bool.and_eq_true, decide_eq_true_eq, UInt8.le_iff_toNat_le, UInt8.lt_iff_toNat_lt]
  exact Iff.rfl

theorem allowsSecond_iff {first second : UInt8} : allowsSecond first second = true ↔
    (128 ≤ second.toNat ∧ second.toNat < 192) ∧ ¬(first.toNat = 224 ∧ second.toNat < 160) ∧
      ¬(first.toNat = 237 ∧ 160 ≤ second.toNat) ∧ ¬(first.toNat = 240 ∧ second.toNat < 144) ∧
        ¬(first.toNat = 244 ∧ 144 ≤ second.toNat) := by
  simp only [allowsSecond, Bool.and_eq_true, Bool.not_eq_true', Bool.and_eq_false_iff, isContinuation_iff,
    beq_eq_false_iff_ne, ne_eq, decide_eq_false_iff_not, UInt8.le_iff_toNat_le, UInt8.lt_iff_toNat_lt,
    ← UInt8.toNat_inj, UInt8.reduceToNat]
  omega

theorem tailLength?_eq (b : UInt8) : tailLength? b =
    if b.toNat < 128 then some 0
    else if 194 ≤ b.toNat ∧ b.toNat < 224 then some 1
    else if 224 ≤ b.toNat ∧ b.toNat < 240 then some 2
    else if 240 ≤ b.toNat ∧ b.toNat < 245 then some 3
    else none := by
  simp only [tailLength?, Bool.and_eq_true, decide_eq_true_eq, UInt8.le_iff_toNat_le, UInt8.lt_iff_toNat_lt]
  rfl

theorem isContinuation_ofNat (n : Nat) : isContinuation (UInt8.ofNat (n % 64 + 128)) = true := by
  rw [isContinuation_iff, UInt8.toNat_ofNat']
  omega

/-- A first byte with as many bytes behind it as it announces is a character, whatever follows. -/
theorem decodeOne_of_tail {first : UInt8} {tail : List UInt8} (hlength : tailLength? first = some tail.length)
    (hall : ∀ b ∈ tail, isContinuation b = true) (hsecond : ∀ b ∈ tail.head?, allowsSecond first b = true)
    (rest : List UInt8) :
    decodeOne first (tail ++ rest) = (.ok (Char.ofNat (codePoint first tail)), tail.length) := by
  have hvalid : tail.length ≤ validTail first (tail ++ rest) := by
    cases tail with
    | nil => exact Nat.zero_le _
    | cons b tail =>
      have hrun : (tail ++ rest).takeWhile isContinuation = tail ++ rest.takeWhile isContinuation :=
        List.takeWhile_append_of_pos fun c hc => hall c (List.mem_cons_of_mem b hc)
      rw [List.cons_append, validTail, if_pos (hsecond b rfl), hrun, List.length_append, List.length_cons]
      omega
  rw [decodeOne, hlength]
  dsimp only
  rw [Nat.min_eq_left hvalid, if_pos (beq_self_eq_true tail.length), List.take_left]

theorem utf8EncodeChar_eq (c : Char) : String.utf8EncodeChar c =
    if c.toNat ≤ 127 then [UInt8.ofNat c.toNat]
    else if c.toNat ≤ 2047 then [UInt8.ofNat (c.toNat / 64 % 32 + 192), UInt8.ofNat (c.toNat % 64 + 128)]
    else if c.toNat ≤ 65535 then
      [UInt8.ofNat (c.toNat / 4096 % 16 + 224), UInt8.ofNat (c.toNat / 64 % 64 + 128), UInt8.ofNat (c.toNat % 64 + 128)]
    else
      [UInt8.ofNat (c.toNat / 262144 % 8 + 240), UInt8.ofNat (c.toNat / 4096 % 64 + 128),
        UInt8.ofNat (c.toNat / 64 % 64 + 128), UInt8.ofNat (c.toNat % 64 + 128)] := rfl

theorem decodeOne_char (c : Char) (rest : List UInt8) :
    ∃ first tail, String.utf8EncodeChar c = first :: tail ∧ decodeOne first (tail ++ rest) = (.ok c, tail.length) := by
  have hvalid : c.toNat < 55296 ∨ 57343 < c.toNat ∧ c.toNat < 1114112 := c.valid
  suffices h : ∃ first tail, String.utf8EncodeChar c = first :: tail ∧ tailLength? first = some tail.length ∧
      (∀ b ∈ tail, isContinuation b = true) ∧ (∀ b ∈ tail.head?, allowsSecond first b = true) ∧
        codePoint first tail = c.toNat by
    obtain ⟨first, tail, hbytes, hlength, hall, hsecond, hcode⟩ := h
    refine ⟨first, tail, hbytes, ?_⟩
    rw [decodeOne_of_tail hlength hall hsecond, hcode, Char.ofNat_toNat]
  rw [utf8EncodeChar_eq]
  generalize c.toNat = n at hvalid
  -- one case for each number of bytes; in each the head announces the tail, and the bits are those of the code
  split
  · refine ⟨_, _, rfl, ?_, by simp, by simp, ?_⟩
    · rw [tailLength?_eq, UInt8.toNat_ofNat', if_pos (by omega), List.length_nil]
    · simp only [codePoint, List.length_nil, List.foldl_nil, UInt8.toNat_ofNat']
      omega
  split
  · refine ⟨_, _, rfl, ?_, ?_, ?_, ?_⟩
    · rw [tailLength?_eq, UInt8.toNat_ofNat', if_neg (by omega), if_pos (by omega)]
      rfl
    · simp only [List.mem_cons, List.not_mem_nil, or_false, forall_eq, isContinuation_ofNat]
    · simp only [List.head?_cons, Option.mem_some_iff, forall_eq', allowsSecond_iff, UInt8.toNat_ofNat']
      omega
    · simp only [codePoint, List.length_singleton, List.foldl_cons, List.foldl_nil, UInt8.toNat_ofNat']
      omega
  split
  · refine ⟨_, _, rfl, ?_, ?_, ?_, ?_⟩
    · rw [tailLength?_eq, UInt8.toNat_ofNat', if_neg (by omega), if_neg (by omega), if_pos (by omega)]
      rfl
    · simp only [List.mem_cons, List.not_mem_nil, or_false, forall_eq_or_imp, forall_eq, isContinuation_ofNat, and_self]
    · simp only [List.head?_cons, Option.mem_some_iff, forall_eq', allowsSecond_iff, UInt8.toNat_ofNat']
      omega
    · simp only [codePoint, List.length_cons, List.length_nil, List.foldl_cons, List.foldl_nil, UInt8.toNat_ofNat']
      omega
  · refine ⟨_, _, rfl, ?_, ?_, ?_, ?_⟩
    · rw [tailLength?_eq, UInt8.toNat_ofNat', if_neg (by omega), if_neg (by omega), if_neg (by omega),
        if_pos (by omega)]
      rfl
    · simp only [List.mem_cons, List.not_mem_nil, or_false, forall_eq_or_imp, forall_eq, isContinuation_ofNat, and_self]
    · simp only [List.head?_cons, Option.mem_some_iff, forall_eq', allowsSecond_iff, UInt8.toNat_ofNat']
      omega
    · simp only [codePoint, List.length_cons, List.length_nil, List.foldl_cons, List.foldl_nil, UInt8.toNat_ofNat']
      omega

/-! ## Bytes of a text -/

theorem encode_cons (c : Char) (cs : List Char) : encode (c :: cs) = String.utf8EncodeChar c ++ encode cs :=
  List.flatMap_cons

theorem decodeLeniently_encode (cs : List Char) : decodeLeniently (encode cs) = cs := by
  have h : ∀ fuel, (encode cs).length ≤ fuel → decodeLenientlyFrom fuel (encode cs) = cs := by
    induction cs with
    | nil =>
      intro fuel _
      cases fuel <;> rfl
    | cons c cs ih =>
      intro fuel hfuel
      obtain ⟨first, tail, hbytes, hdecode⟩ := decodeOne_char c (encode cs)
      rw [encode_cons, hbytes, List.cons_append] at hfuel ⊢
      rw [List.length_cons, List.length_append] at hfuel
      cases fuel with
      | zero => omega
      | succ fuel =>
        rw [decodeLenientlyFrom, hdecode]
        dsimp only
        rw [List.drop_left, ih fuel (by omega)]
  exact h _ (Nat.le_refl _)

/-! ## Percent encoding -/

/-- The characters of a percent encoded text. -/
def isCoded (c : Char) : Bool := isPlain c || c == '%'

def percentCode (c : Char) : List Char := if isPlain c then [c] else (String.utf8EncodeChar c).flatMap percentByte

theorem toList_percentEncode (s : String) : (percentEncode [] s).toList = s.toList.flatMap percentCode := by
  rw [percentEncode, String.toList_ofList]
  refine List.flatMap_congr fun c _ => ?_
  rw [List.contains_nil, Bool.or_false, percentCode]

theorem hexValue?_upperHexDigit : ∀ n, n < 16 → hexValue? (upperHexDigit n) = some n := by decide

theorem isPlain_upperHexDigit : ∀ n, n < 16 → isPlain (upperHexDigit n) = true := by decide

theorem lt_of_isPlain {c : Char} (h : isPlain c = true) : c.toNat < 128 := by
  simp only [isPlain, isAsciiLetter, Bool.or_eq_true, isAsciiUpper_iff, isAsciiLower_iff, isAsciiDigit_iff,
    List.contains_iff_mem, List.mem_cons, List.not_mem_nil, or_false] at h
  rcases h with ((h | h) | h) | rfl | rfl | rfl | rfl
  · omega
  · omega
  · omega
  all_goals decide

theorem isAscii_of_isCoded {c : Char} (h : isCoded c = true) : isAscii c = true := by
  rcases Bool.or_eq_true_iff.mp h with h | h
  · exact decide_eq_true (lt_of_isPlain h)
  · rw [beq_iff_eq.mp h]
    rfl

theorem isCoded_percentCode {c d : Char} (h : d ∈ percentCode c) : isCoded d = true := by
  unfold percentCode at h
  split at h
  · rename_i hplain
    rw [List.mem_singleton.mp h, isCoded, hplain, Bool.true_or]
  · obtain ⟨b, -, hb⟩ := List.mem_flatMap.mp h
    have hlt := b.toNat_lt
    simp only [percentByte, List.mem_cons, List.not_mem_nil, or_false] at hb
    rcases hb with rfl | rfl | rfl
    · rfl
    · rw [isCoded, isPlain_upperHexDigit _ (by omega), Bool.true_or]
    · rw [isCoded, isPlain_upperHexDigit _ (by omega), Bool.true_or]

theorem isCoded_percentEncode (s : String) : ∀ c ∈ (percentEncode [] s).toList, isCoded c = true := by
  intro c hc
  rw [toList_percentEncode] at hc
  obtain ⟨d, -, hd⟩ := List.mem_flatMap.mp hc
  exact isCoded_percentCode hd

theorem percentCode_ne_nil (c : Char) : percentCode c ≠ [] := by
  unfold percentCode
  split
  · exact List.cons_ne_nil _ _
  · obtain ⟨first, tail, hbytes, -⟩ := decodeOne_char c []
    rw [hbytes]
    exact List.cons_ne_nil _ _

theorem percentEncode_ne_nil {s : String} (h : s ≠ "") : (percentEncode [] s).toList ≠ [] := by
  obtain ⟨c, cs, hcs⟩ := List.exists_cons_of_ne_nil fun hnil => h (String.toList_eq_nil_iff.mp hnil)
  rw [toList_percentEncode, hcs, List.flatMap_cons]
  exact List.append_ne_nil_of_left_ne_nil (percentCode_ne_nil c) _

/-! ## Read back -/

theorem percentBytes_byte (b : UInt8) (fuel : Nat) (rest : List Char) :
    percentBytes (fuel + 1) (percentByte b ++ rest) = b :: percentBytes fuel rest := by
  have hlt := b.toNat_lt
  rw [percentByte, List.cons_append, List.cons_append, List.cons_append, List.nil_append, percentBytes]
  rw [hexValue?_upperHexDigit _ (by omega), hexValue?_upperHexDigit _ (by omega)]
  dsimp only
  rw [Nat.div_add_mod, UInt8.ofNat_toNat]

theorem percentBytes_ne {c : Char} (h : c ≠ '%') (fuel : Nat) (rest : List Char) :
    percentBytes (fuel + 1) (c :: rest) = UInt8.ofNat c.toNat :: percentBytes fuel rest := by
  rw [percentBytes]
  intro a b more hc
  exact absurd hc h

theorem percentBytes_bytes (bytes : List UInt8) (fuel : Nat) (rest : List Char) :
    percentBytes (bytes.length + fuel) (bytes.flatMap percentByte ++ rest) = bytes ++ percentBytes fuel rest := by
  induction bytes with
  | nil => rw [List.length_nil, Nat.zero_add]; rfl
  | cons b bytes ih =>
    rw [List.flatMap_cons, List.append_assoc, List.length_cons, Nat.add_right_comm, percentBytes_byte, ih,
      List.cons_append]

theorem percentBytes_percentCode (c : Char) (fuel : Nat) (rest : List Char) :
    percentBytes ((String.utf8EncodeChar c).length + fuel) (percentCode c ++ rest) =
      String.utf8EncodeChar c ++ percentBytes fuel rest := by
  unfold percentCode
  split
  · rename_i hplain
    have hascii := lt_of_isPlain hplain
    have hne : c ≠ '%' := by
      rintro rfl
      cases hplain
    rw [utf8EncodeChar_eq, if_pos (by omega), List.length_singleton, Nat.add_comm, List.singleton_append,
      percentBytes_ne hne, List.singleton_append]
  · exact percentBytes_bytes _ fuel rest

theorem percentBytes_flatMap (cs : List Char) (fuel : Nat) :
    percentBytes ((encode cs).length + fuel) (cs.flatMap percentCode) = encode cs := by
  induction cs with
  | nil => cases fuel <;> rfl
  | cons c cs ih =>
    rw [encode_cons, List.length_append, Nat.add_assoc, List.flatMap_cons, percentBytes_percentCode, ih]

theorem runsOf_all {p : Char → Bool} {cs : List Char} (hne : cs ≠ []) (h : ∀ c ∈ cs, p c = true) :
    runsOf p cs = [cs] := by
  induction cs with
  | nil => exact absurd rfl hne
  | cons c cs ih =>
    cases cs with
    | nil => rfl
    | cons d cs =>
      have ih := ih (List.cons_ne_nil d cs) fun e he => h e (List.mem_cons_of_mem c he)
      rw [runsOf, ih]
      dsimp only
      rw [h c (by simp), h d (by simp), beq_self_eq_true, if_pos rfl]

theorem length_le_flatMap (bytes : List UInt8) : bytes.length ≤ (bytes.flatMap percentByte).length := by
  induction bytes with
  | nil => exact Nat.le_refl 0
  | cons b bytes ih =>
    rw [List.flatMap_cons, List.length_append, List.length_cons, Nat.add_comm]
    exact Nat.add_le_add (show 1 ≤ 3 by decide) ih

theorem length_encode_le (cs : List Char) : (encode cs).length ≤ (cs.flatMap percentCode).length := by
  induction cs with
  | nil => exact Nat.le_refl 0
  | cons c cs ih =>
    have hc : (String.utf8EncodeChar c).length ≤ (percentCode c).length := by
      unfold percentCode
      split
      · rename_i hplain
        have hascii := lt_of_isPlain hplain
        rw [utf8EncodeChar_eq, if_pos (by omega)]
        exact Nat.le_refl 1
      · exact length_le_flatMap _
    rw [encode_cons, List.flatMap_cons, List.length_append, List.length_append]
    omega

theorem percentDecode_percentEncode (s : String) : percentDecode (percentEncode [] s) = s := by
  by_cases hs : s = ""
  · rw [hs]
    rfl
  · have hascii : ∀ c ∈ (percentEncode [] s).toList, isAscii c = true :=
      fun c hc => isAscii_of_isCoded (isCoded_percentEncode s c hc)
    -- so the whole text is one run, and as many steps as it has characters are enough for its bytes
    obtain ⟨more, hmore⟩ := Nat.exists_eq_add_of_le (length_encode_le s.toList)
    rw [percentDecode, runsOf_all (percentEncode_ne_nil hs) hascii, List.flatMap_singleton,
      if_pos (List.all_eq_true.mpr hascii), toList_percentEncode, hmore, percentBytes_flatMap, decodeLeniently_encode,
      String.ofList_toList]

end SchemaConcord.Text
