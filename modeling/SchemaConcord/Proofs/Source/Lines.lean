import Mathlib.Data.Bool.AllAny
import SchemaConcord.Proofs.Source.Words

/-!
# Written lines

A source written line by line: words with gaps between them, each line at its depth, a line going on over line breaks
while a bracket is open. Such a source is cut into the tokens of its words, with a mark at every end of a line and at
every change of depth (`tokens?_lines`).
-/

namespace SchemaConcord.Source

open Text

inductive Gap where
  | none
  | space
  /-- A line break inside brackets, with blanks after it. -/
  | break (columns : Nat)
  deriving DecidableEq, Repr

abbrev Item := Gap × Word

inductive Line where
  | blank
  | code (depth : Nat) (first : Word) (items : List Item)
  deriving DecidableEq, Repr

/-! ## Characters and tokens -/

def Gap.chars : Gap → List Char
  | .none => []
  | .space => [' ']
  | .break n => '\n' :: List.replicate n ' '

def itemChars (items : List Item) : List Char := items.flatMap fun (gap, w) => gap.chars ++ w.chars

def itemTokens (items : List Item) : List Token := items.map (·.2.token)

namespace Line

def chars : Line → List Char
  | .blank => ['\n']
  | .code depth first items => List.replicate (4 * depth) ' ' ++ (first.chars ++ (itemChars items ++ ['\n']))

def tokens : Line → List Token
  | .blank => []
  | .code _ first items => first.token :: (itemTokens items ++ [.newline])

end Line

def lineChars (lines : List Line) : List Char := lines.flatMap Line.chars

/-- The marks for a change of depth, one level in or any number out. -/
def depthMarks (before after : Nat) : List Token :=
  if before < after then [.indent] else List.replicate (before - after) .dedent

def lineTokens (depth : Nat) : List Line → List Token
  | [] => List.replicate depth .dedent
  | .blank :: rest => lineTokens depth rest
  | .code d first items :: rest =>
    depthMarks depth d ++ (first.token :: (itemTokens items ++ .newline :: lineTokens d rest))

/-! ## Well-formed lines -/

namespace Word

/-- Whether a word may follow another one without a gap. -/
def meets : Word → Word → Bool
  | .op s, w => match w with
    | .op u => !(u.toList.head?.map joining.contains).getD true
    | .number _ => s != "."
    | _ => true
  | .number _, .op u => u != "."
  | _, .op _ => true
  | _, _ => false

end Word

/-- Whether one word may follow another after a gap, where these brackets are open between them. -/
def Gap.allows (open_ : List Char) (w v : Word) : Gap → Bool
  | .none => w.meets v
  | .space => true
  | .break _ => !open_.isEmpty

/-- The brackets that are open after a word and items, if each may stand where it stands. -/
def openAfter? (open_ : List Char) (w : Word) : List Item → Option (List Char)
  | [] => w.after? open_
  | (gap, v) :: rest => (w.after? open_).bind fun inner =>
    if gap.allows inner w v then openAfter? inner v rest else none

namespace Line

/-- The brackets of a line pair up, and neighbouring words stay apart. -/
def fits : Line → Bool
  | .blank => true
  | .code _ first items => openAfter? [] first items == some []

def words : Line → List Word
  | .blank => []
  | .code _ first items => first :: items.map (·.2)

def Sound (l : Line) : Prop := ∀ w ∈ l.words, w.Sound

end Line

/-- No line is more than one level deeper than the one before, blank lines apart. -/
def stepwise (depth : Nat) : List Line → Bool
  | [] => true
  | .blank :: rest => stepwise depth rest
  | .code d _ _ :: rest => d ≤ depth + 1 && d < maxIndents - 1 && stepwise d rest

/-! ## The first character of a word -/

/-- Characters at which a token begins. -/
def Opens (c : Char) : Prop := isInlineBlank c = false ∧ c ≠ '\\' ∧ c ≠ '\n' ∧ c ≠ '#'

instance (c : Char) : Decidable (Opens c) := inferInstanceAs (Decidable (_ ∧ _ ∧ _ ∧ _))

theorem opens_of_isNameByte {c : Char} (h : isNameByte c = true) : Opens c := by
  have hne : ∀ d : Char, isNameByte d = false → c ≠ d := by
    rintro d hd rfl
    cases h.symm.trans hd
  have hfeed : c.toNat ≠ 12 := by
    intro hc
    refine hne (Char.ofNat 12) rfl ?_
    rw [← hc, Char.ofNat_toNat]
  refine ⟨?_, hne _ rfl, hne _ rfl, hne _ rfl⟩
  simp [isInlineBlank, hne ' ' rfl, hne '\t' rfl, hfeed]

theorem Word.exists_head {w : Word} (h : w.Sound) : ∃ c cs, w.chars = c :: cs ∧ Opens c := by
  cases w with
  | name s =>
    obtain ⟨hs, -⟩ := h
    have hbytes := isNameByte_of_mem hs
    cases hlist : s.toList with
    | nil => rw [hlist] at hs; cases hs
    | cons c cs =>
      rw [hlist] at hbytes
      exact ⟨c, cs, hlist, opens_of_isNameByte (hbytes c (List.mem_cons_self ..))⟩
  | keyword s =>
    have hbytes := isNameByte_of_mem (isIdentifier_of_mem_keywords s h)
    cases hlist : s.toList with
    | nil =>
      have := isIdentifier_of_mem_keywords s h
      rw [hlist] at this
      cases this
    | cons c cs =>
      rw [hlist] at hbytes
      exact ⟨c, cs, hlist, opens_of_isNameByte (hbytes c (List.mem_cons_self ..))⟩
  | number n =>
    cases hds : Nat.toDigits 10 n with
    | nil => exact absurd hds Nat.toDigits_ne_nil
    | cons c cs =>
      have hdigit : isAsciiDigit c = true := isAsciiDigit_toDigits (n := n) (by rw [hds]; exact List.mem_cons_self ..)
      exact ⟨c, cs, hds, opens_of_isNameByte (by simp [isNameByte, hdigit])⟩
  | text s => exact ⟨_, _, rfl, by decide⟩
  | doc s => exact ⟨_, _, rfl, by decide⟩
  | op s =>
    have hall : ∀ s ∈ writtenOps, (s.toList.head?.any fun c => decide (Opens c)) = true := by decide +kernel
    obtain ⟨c, hc, hopens⟩ := (Option.any_eq_true _ _).mp (hall s h)
    have hopens := of_decide_eq_true hopens
    cases hlist : s.toList with
    | nil => rw [hlist] at hc; cases hc
    | cons d cs =>
      rw [hlist] at hc
      cases hc
      exact ⟨c, cs, hlist, hopens⟩

theorem Word.endsBefore_blank {w : Word} (h : w.Sound) : w.endsBefore ' ' = true ∧ w.endsBefore '\n' = true := by
  cases w with
  | op s =>
    have hall : ∀ s ∈ writtenOps, (Word.op s).endsBefore ' ' = true ∧ (Word.op s).endsBefore '\n' = true := by
      decide +kernel
    exact hall s h
  | _ => exact ⟨rfl, rfl⟩

theorem not_mem_joining {c : Char} (h : isNameByte c = true) : c ∉ joining := by
  have hall : (joining.all fun d => decide (isNameByte d = false)) = true := by decide
  intro hc
  cases h.symm.trans (List.all_iff_forall_prop.mp hall c hc)

/-- A word ends before an operator that may follow it. -/
theorem Word.endsBefore_op {w : Word} {u : String} (hu : u ∈ writtenOps) (h : w.meets (.op u) = true) {c : Char}
    {cs : List Char} (hc : u.toList = c :: cs) : w.endsBefore c = true := by
  obtain ⟨d, ds, hlist, hhead, hquote, hsingle, hdigit, -, hdot⟩ := head_of_mem_writtenOps u hu
  obtain ⟨rfl, -⟩ := List.cons.inj (hlist.symm.trans hc)
  have hname : isNameByte d = false := by simpa [isNameHeadByte, hdigit] using hhead
  cases w with
  | name s => simp [endsBefore, hname, hquote, hsingle]
  | keyword s => simp [endsBefore, hname, hquote, hsingle]
  | number n =>
    have hother : d ≠ '.' := by
      rintro rfl
      rw [hdot rfl] at h
      cases h
    simp [endsBefore, hname, hother]
  | text s => simp [endsBefore, hquote]
  | doc s => rfl
  | op s =>
    have hjoining : d ∉ joining := by simpa [meets, hc] using h
    simp [endsBefore, hjoining, hdigit]

theorem Word.op_endsBefore_identifier (s : String) {c : Char} {cs : List Char} (h : isIdentifier (c :: cs) = true) :
    (Word.op s).endsBefore c = true := by
  have hstart : isNameStart c = true := by
    simp only [isIdentifier, Bool.and_eq_true] at h
    exact h.1
  simp [endsBefore, not_mem_joining (isNameByte_of_isNameStart hstart), not_isAsciiDigit_of_isNameStart hstart]

theorem Word.op_endsBefore_digit {s : String} (hs : s ≠ ".") {c : Char} (h : isAsciiDigit c = true) :
    (Word.op s).endsBefore c = true := by
  have hname : isNameByte c = true := by simp [isNameByte, h]
  simp [endsBefore, not_mem_joining hname, hs]

theorem Word.op_endsBefore_quote (s : String) : (Word.op s).endsBefore '"' = true := by
  simp [endsBefore, show '"' ∉ joining by decide, show isAsciiDigit '"' = false by decide]

/-- Words that may meet are cut apart. -/
theorem Word.endsBefore_head {w v : Word} (hv : v.Sound) (h : w.meets v = true) {c : Char} {cs : List Char}
    (hc : v.chars = c :: cs) : w.endsBefore c = true := by
  -- Two words meet only where one of them is an operator.
  have hfirst : (∃ u, v = .op u) ∨ ∃ s, w = .op s := by
    cases v with
    | op u => exact .inl ⟨u, rfl⟩
    | _ =>
      cases w with
      | op s => exact .inr ⟨s, rfl⟩
      | _ => cases h
  rcases hfirst with ⟨u, rfl⟩ | ⟨s, rfl⟩
  · exact endsBefore_op hv h hc
  · cases v with
    | name n => exact op_endsBefore_identifier s (hc ▸ hv.1 : isIdentifier (c :: cs) = true)
    | keyword n => exact op_endsBefore_identifier s (hc ▸ isIdentifier_of_mem_keywords n hv : isIdentifier (c :: cs) = true)
    | number n =>
      have hdigits : Nat.toDigits 10 n = c :: cs := hc
      have hdot : s ≠ "." := by simpa [meets] using h
      exact op_endsBefore_digit hdot (isAsciiDigit_toDigits (n := n) (hdigits ▸ List.mem_cons_self ..))
    | text n =>
      cases hc
      exact op_endsBefore_quote s
    | doc n =>
      cases hc
      exact op_endsBefore_quote s
    | op u => exact endsBefore_op hv h hc

/-! ## Indentation -/

/-- The open indentations at a depth, four columns a level. -/
def indentStack : Nat → List (Nat × Nat)
  | 0 => [(0, 0)]
  | d + 1 => (4 * (d + 1), 4 * (d + 1)) :: indentStack d

theorem indentStack_eq (d : Nat) : ∃ below, indentStack d = (4 * d, 4 * d) :: below := by
  cases d with
  | zero => exact ⟨_, rfl⟩
  | succ d => exact ⟨_, rfl⟩

theorem length_indentStack (d : Nat) : (indentStack d).length = d + 1 := by
  induction d with
  | zero => rfl
  | succ d ih => rw [indentStack, List.length_cons, ih]

theorem closeIndents_stack {e d : Nat} (h : e ≤ d) :
    closeIndents (4 * e) (indentStack d) = (List.replicate (d - e) .dedent, indentStack e) := by
  induction d with
  | zero =>
    obtain rfl : e = 0 := by omega
    rfl
  | succ d ih =>
    obtain ⟨below, hbelow⟩ := indentStack_eq d
    by_cases heq : e = d + 1
    · subst heq
      rw [Nat.sub_self, indentStack, hbelow, closeIndents, if_neg (Nat.lt_irrefl _)]
      rfl
    · have hle : e ≤ d := by omega
      have hlt : 4 * e < 4 * (d + 1) := by omega
      have ih := ih hle
      rw [hbelow] at ih
      rw [indentStack, hbelow, closeIndents, if_pos hlt, ih, Nat.succ_sub hle]
      rfl

theorem indentTo?_stack {e d : Nat} (hdepth : e ≤ d + 1) (hmax : e < maxIndents - 1) :
    indentTo? (4 * e) (4 * e) (indentStack d) = some (depthMarks d e, indentStack e) := by
  obtain ⟨below, hbelow⟩ := indentStack_eq d
  obtain ⟨under, hunder⟩ := indentStack_eq e
  have hlength := length_indentStack d
  have hclose := @closeIndents_stack e d
  rw [hbelow] at hlength hclose
  rw [hbelow, indentTo?]
  rcases Nat.lt_trichotomy e d with hlt | rfl | hlt
  · have hne : (4 * e == 4 * d) = false := beq_false_of_ne (by omega)
    simp [hne, show ¬ 4 * d < 4 * e by omega, hclose hlt.le, hunder, depthMarks, show ¬ d < e by omega]
  · simp [depthMarks, hbelow]
  · obtain rfl : e = d + 1 := by omega
    have hne : (4 * (d + 1) == 4 * d) = false := beq_false_of_ne (by omega)
    have hroom : ¬ maxIndents ≤ below.length + 1 := by
      rw [List.length_cons] at hlength
      omega
    simp [hne, show 4 * d < 4 * (d + 1) by omega, hroom, depthMarks, indentStack, hbelow]

/-! ## Steps of the lexer -/

/-- A text is cut into tokens from a state on; two steps for each character are enough. -/
def Lexes (s : LexState) (cs : List Char) (ts : List Token) : Prop :=
  ∀ fuel, 2 * cs.length + (if s.lineStart then 2 else 1) ≤ fuel → lexFrom s fuel cs = some ts

theorem measure?_spaces {c : Char} (hblank : isInlineBlank c = false) (hescape : c ≠ '\\') (cs : List Char) (n : Nat)
    {fuel : Nat} (hfuel : n < fuel) (col alt joined : Nat) :
    measure? col alt joined fuel (List.replicate n ' ' ++ c :: cs) = some (col + n, alt + n, joined, c :: cs) := by
  simp only [isInlineBlank, Bool.or_eq_false_iff, beq_eq_false_iff_ne] at hblank
  obtain ⟨⟨hspace, htab⟩, hfeed⟩ := hblank
  induction n generalizing fuel col alt with
  | zero =>
    obtain ⟨fuel, rfl⟩ : ∃ m, fuel = m + 1 := ⟨fuel - 1, by omega⟩
    unfold measure?
    split
    · next heq => exact absurd (List.cons.inj heq).1 hspace
    · next heq => exact absurd (List.cons.inj heq).1 htab
    · next heq => exact absurd (List.cons.inj heq).1 hescape
    · next heq =>
      obtain ⟨rfl, rfl⟩ := List.cons.inj heq
      rw [if_neg (by simpa using hfeed)]
      rfl
    · next heq => cases heq
  | succ n ih =>
    obtain ⟨fuel, rfl⟩ : ∃ m, fuel = m + 1 := ⟨fuel - 1, by omega⟩
    rw [List.replicate_succ, List.cons_append, measure?, ih (by omega)]
    simp only [Option.some.injEq, Prod.mk.injEq, and_true]
    omega

namespace Lexes

variable {indents : List (Nat × Nat)} {open_ : List Char} {cs : List Char} {ts : List Token}

theorem blanks {s : LexState} (hs : s.lineStart = false) (h : Lexes s cs ts) : Lexes s (' ' :: cs) ts := by
  intro fuel hfuel
  rw [← h fuel (by rw [List.length_cons] at hfuel; omega)]
  cases fuel with
  | zero => rfl
  | succ fuel =>
    rw [lexFrom, lexFrom, hs]
    rfl

theorem word {w : Word} (hw : w.Sound) {inner : List Char} (hopen : w.after? open_ = some inner)
    (hends : ∀ c ∈ cs.head?, w.endsBefore c = true) (h : Lexes ⟨indents, inner, false⟩ cs ts) :
    Lexes ⟨indents, open_, false⟩ (w.chars ++ cs) (w.token :: ts) := by
  intro fuel hfuel
  obtain ⟨c, more, hchars, hblank, hescape, hline, hcomment⟩ := Word.exists_head hw
  have htoken := token?_word (s := ⟨indents, open_, false⟩) hw hopen hends
  rw [hchars, List.cons_append] at hfuel htoken ⊢
  simp only [List.length_cons, List.length_append, Bool.false_eq_true, if_false] at hfuel
  obtain ⟨fuel, rfl⟩ : ∃ m, fuel = m + 1 := ⟨fuel - 1, by omega⟩
  have hrest := h fuel (by simp only [Bool.false_eq_true, if_false]; omega)
  have hdrop : dropComment ((c :: (more ++ cs)).dropWhile isInlineBlank) = c :: (more ++ cs) := by
    rw [List.dropWhile_cons_of_neg (by simp [hblank]), dropComment]
    rintro rest heq
    exact hcomment (List.cons.inj heq).1
  rw [lexFrom, if_neg Bool.false_ne_true, hdrop]
  split
  · next heq => cases heq
  · next heq => exact absurd (List.cons.inj heq).1 hline
  · next heq => exact absurd (List.cons.inj heq).1 hescape
  · simp [htoken, hrest]

theorem newline (h : Lexes ⟨indents, [], true⟩ cs ts) :
    Lexes ⟨indents, [], false⟩ ('\n' :: cs) (.newline :: ts) := by
  intro fuel hfuel
  simp only [List.length_cons, Bool.false_eq_true, if_false] at hfuel
  obtain ⟨fuel, rfl⟩ : ∃ m, fuel = m + 1 := ⟨fuel - 1, by omega⟩
  have hrest := h fuel (by simp only [if_true]; omega)
  show (lexFrom _ fuel cs).map _ = _
  rw [hrest]
  rfl

theorem blankLine (h : Lexes ⟨indents, [], true⟩ cs ts) : Lexes ⟨indents, [], true⟩ ('\n' :: cs) ts := by
  intro fuel hfuel
  simp only [List.length_cons, if_true] at hfuel
  obtain ⟨fuel, rfl⟩ : ∃ m, fuel = m + 1 := ⟨fuel - 1, by omega⟩
  have hmeasure := measure?_spaces (c := '\n') rfl (by decide) cs 0 (Nat.succ_pos (cs.length + 1)) 0 0 0
  have hrest := h fuel (by simp only [if_true]; omega)
  rw [List.replicate_zero, List.nil_append] at hmeasure
  rw [lexFrom, if_pos rfl, List.length_cons, hmeasure]
  exact hrest

/-- Inside brackets a line goes on after a line break. -/
theorem wrap {c : Char} (hc : Opens c) (hopen : open_ ≠ []) (n : Nat)
    (h : Lexes ⟨indents, open_, false⟩ (c :: cs) ts) :
    Lexes ⟨indents, open_, false⟩ ('\n' :: (List.replicate n ' ' ++ c :: cs)) ts := by
  intro fuel hfuel
  simp only [List.length_cons, List.length_append, List.length_replicate, Bool.false_eq_true, if_false] at hfuel
  obtain ⟨fuel, rfl⟩ : ∃ m, fuel = m + 2 := ⟨fuel - 2, by omega⟩
  obtain ⟨hblank, hescape, hline, hcomment⟩ := hc
  have hrest := h fuel (by simp only [List.length_cons, Bool.false_eq_true, if_false]; omega)
  have hbrackets : open_.isEmpty = false := by
    cases open_ with
    | nil => exact absurd rfl hopen
    | cons _ _ => rfl
  have hlength : n < (List.replicate n ' ' ++ c :: cs).length + 1 := by
    simp only [List.length_append, List.length_replicate]
    omega
  have hmeasure := measure?_spaces hblank hescape cs n hlength 0 0 0
  have hfirst : lexFrom ⟨indents, open_, false⟩ (fuel + 2) ('\n' :: (List.replicate n ' ' ++ c :: cs)) =
      lexFrom ⟨indents, open_, true⟩ (fuel + 1) (List.replicate n ' ' ++ c :: cs) := by
    rw [lexFrom, if_neg Bool.false_ne_true]
    show (if open_.isEmpty = true then _ else _) = _
    rw [hbrackets, if_neg Bool.false_ne_true]
  rw [hfirst, lexFrom, if_pos rfl, hmeasure]
  simp [hline, hcomment, hbrackets, hrest]

theorem indented {c : Char} (hc : Opens c) {n : Nat} {marks : List Token} {stack : List (Nat × Nat)}
    (hto : indentTo? n n indents = some (marks, stack)) (h : Lexes ⟨stack, [], false⟩ (c :: cs) ts) :
    Lexes ⟨indents, [], true⟩ (List.replicate n ' ' ++ c :: cs) (marks ++ ts) := by
  intro fuel hfuel
  simp only [List.length_cons, List.length_append, List.length_replicate, if_true] at hfuel
  obtain ⟨fuel, rfl⟩ : ∃ m, fuel = m + 1 := ⟨fuel - 1, by omega⟩
  obtain ⟨hblank, hescape, hline, hcomment⟩ := hc
  have hrest := h fuel (by simp only [List.length_cons, Bool.false_eq_true, if_false]; omega)
  have hlength : n < (List.replicate n ' ' ++ c :: cs).length + 1 := by
    simp only [List.length_append, List.length_replicate]
    omega
  have hmeasure := measure?_spaces hblank hescape cs n hlength 0 0 0
  rw [lexFrom, if_pos rfl, hmeasure]
  simp [hline, hcomment, hto, hrest]

theorem finished (d : Nat) : Lexes ⟨indentStack d, [], true⟩ [] (List.replicate d .dedent) := by
  intro fuel hfuel
  obtain ⟨fuel, rfl⟩ : ∃ m, fuel = m + 2 := ⟨fuel - 2, by simp at hfuel; omega⟩
  have hto := indentTo?_stack (e := 0) (d := d) (by omega) (by decide)
  have hmarks : depthMarks d 0 = List.replicate d .dedent := by simp [depthMarks]
  rw [hmarks] at hto
  have hto : indentTo? 0 0 (indentStack d) = some (List.replicate d .dedent, indentStack 0) := hto
  rw [lexFrom, if_pos rfl]
  simp [measure?, hto, lexFrom, dropComment]

end Lexes

/-! ## Lines -/

section
variable {indents : List (Nat × Nat)} {cs : List Char} {ts : List Token}

theorem lexes_items (h : Lexes ⟨indents, [], true⟩ cs ts) {first : Word} {items : List Item} {open_ : List Char}
    (hsound : ∀ w ∈ first :: items.map (·.2), w.Sound) (hfits : openAfter? open_ first items = some []) :
    Lexes ⟨indents, open_, false⟩ (first.chars ++ (itemChars items ++ '\n' :: cs))
      (first.token :: (itemTokens items ++ .newline :: ts)) := by
  have hfirst := hsound first (List.mem_cons_self ..)
  -- Along the line, with the brackets that are still open as the state between two words.
  induction items generalizing first open_ with
  | nil =>
    refine Lexes.word hfirst hfits (fun c hc => ?_) h.newline
    cases hc
    exact (Word.endsBefore_blank hfirst).2
  | cons item items ih =>
    obtain ⟨gap, v⟩ := item
    have hv : v.Sound := hsound v (List.mem_cons_of_mem _ (List.mem_cons_self ..))
    have hlater : ∀ w ∈ v :: items.map (·.2), w.Sound := fun w hw => hsound w (List.mem_cons_of_mem _ hw)
    rw [openAfter?] at hfits
    cases hinner : first.after? open_ with
    | none => simp [hinner] at hfits
    | some inner =>
      obtain ⟨hallows, hfit⟩ : gap.allows inner first v = true ∧ openAfter? inner v items = some [] := by
        simpa [hinner] using hfits
      obtain ⟨c, more, hchars, hopens⟩ := Word.exists_head hv
      have ih := ih hlater hfit hv
      rw [hchars, List.cons_append] at ih
      have hsplit : itemChars ((gap, v) :: items) = gap.chars ++ (c :: (more ++ itemChars items)) := by
        rw [← List.cons_append, ← hchars, ← List.append_assoc]
        rfl
      rw [hsplit, List.append_assoc, List.cons_append, List.append_assoc]
      cases gap with
      | none =>
        refine Lexes.word hfirst hinner (fun d hd => ?_) ih
        cases hd
        exact Word.endsBefore_head hv hallows hchars
      | space =>
        refine Lexes.word hfirst hinner (fun d hd => ?_) (Lexes.blanks rfl ih)
        cases hd
        exact (Word.endsBefore_blank hfirst).1
      | «break» n =>
        have hopen : inner ≠ [] := by
          rintro rfl
          cases hallows
        refine Lexes.word hfirst hinner (fun d hd => ?_) (Lexes.wrap hopens hopen n ih)
        cases hd
        exact (Word.endsBefore_blank hfirst).2

end

theorem lexes_lines {lines : List Line} {d : Nat} (hsound : ∀ l ∈ lines, l.Sound) (hfits : ∀ l ∈ lines, l.fits = true)
    (hstep : stepwise d lines = true) :
    Lexes ⟨indentStack d, [], true⟩ (lineChars lines) (lineTokens d lines) := by
  induction lines generalizing d with
  | nil => exact Lexes.finished d
  | cons l lines ih =>
    have ih := fun {e} => ih (d := e) (fun m hm => hsound m (List.mem_cons_of_mem l hm))
      (fun m hm => hfits m (List.mem_cons_of_mem l hm))
    have hl := hsound l (List.mem_cons_self ..)
    have hfit := hfits l (List.mem_cons_self ..)
    cases l with
    | blank => exact (ih hstep).blankLine
    | code e first items =>
      simp only [stepwise, Bool.and_eq_true, decide_eq_true_eq] at hstep
      obtain ⟨⟨hdepth, hmax⟩, hstep⟩ := hstep
      have hfit : openAfter? [] first items = some [] := by simpa [Line.fits] using hfit
      have hitems := lexes_items (ih hstep) hl hfit
      obtain ⟨c, more, hchars, hopens⟩ := Word.exists_head (hl first (List.mem_cons_self ..))
      rw [hchars, List.cons_append] at hitems
      have hchars : lineChars (.code e first items :: lines) = List.replicate (4 * e) ' ' ++
          (c :: (more ++ (itemChars items ++ '\n' :: lineChars lines))) := by
        show Line.chars (.code e first items) ++ lineChars lines = _
        rw [Line.chars, hchars]
        simp
      rw [hchars]
      exact Lexes.indented hopens (indentTo?_stack hdepth hmax) hitems

/-! ## Whole sources -/

theorem Word.ordinary {w : Word} (h : w.Sound) : ∀ c ∈ w.chars, c ≠ '\r' ∧ c ≠ Char.ofNat 0 := by
  have hname : ∀ c, isNameByte c = true → c ≠ '\r' ∧ c ≠ Char.ofNat 0 := by
    intro c hc
    constructor
    · rintro rfl
      cases hc
    · rintro rfl
      cases hc
  intro c hc
  cases w with
  | name s => exact hname c (isNameByte_of_mem h.1 c hc)
  | keyword s => exact hname c (isNameByte_of_mem (isIdentifier_of_mem_keywords s h) c hc)
  | number n =>
    have hdigit : isAsciiDigit c = true := isAsciiDigit_toDigits hc
    exact hname c (by simp [isNameByte, hdigit])
  | text s =>
    simp only [chars, List.mem_cons, List.mem_append, List.not_mem_nil, or_false] at hc
    rcases hc with rfl | hc | rfl
    · decide
    · exact (h c hc).1.2.2
    · decide
  | doc s =>
    simp only [chars, List.mem_cons, List.mem_append, List.not_mem_nil, or_false] at hc
    rcases hc with rfl | rfl | rfl | hc | rfl | rfl | rfl
    · decide
    · decide
    · decide
    · exact (h c hc).2.2
    · decide
    · decide
    · decide
  | op s =>
    have hall : ∀ s ∈ writtenOps, (s.toList.all fun c => decide (c ≠ '\r' ∧ c ≠ Char.ofNat 0)) = true := by
      decide +kernel
    exact List.all_iff_forall_prop.mp (hall s h) c hc

theorem Gap.ordinary (gap : Gap) : ∀ c ∈ gap.chars, c ≠ '\r' ∧ c ≠ Char.ofNat 0 := by
  cases gap with
  | none => simp [chars]
  | space => exact List.forall_mem_singleton.mpr (by decide)
  | «break» n =>
    intro c hc
    rcases List.mem_cons.mp hc with rfl | hc
    · decide
    · obtain ⟨-, rfl⟩ := List.mem_replicate.mp hc
      decide

theorem ordinary_lineChars {lines : List Line} (h : ∀ l ∈ lines, l.Sound) :
    ∀ c ∈ lineChars lines, c ≠ '\r' ∧ c ≠ Char.ofNat 0 := by
  intro c hc
  obtain ⟨l, hl, hc⟩ := List.mem_flatMap.mp hc
  have hsound := h l hl
  cases l with
  | blank =>
    obtain rfl := List.mem_singleton.mp hc
    decide
  | code d first items =>
    simp only [Line.chars, List.mem_append, List.mem_singleton] at hc
    rcases hc with hc | hc | hc | rfl
    · obtain ⟨-, rfl⟩ := List.mem_replicate.mp hc
      decide
    · exact Word.ordinary (hsound first (List.mem_cons_self ..)) c hc
    · obtain ⟨⟨gap, w⟩, hitem, hc⟩ := List.mem_flatMap.mp hc
      rcases List.mem_append.mp hc with hc | hc
      · exact Gap.ordinary gap c hc
      · exact Word.ordinary (hsound w (List.mem_cons_of_mem _ (List.mem_map.mpr ⟨_, hitem, rfl⟩))) c hc
    · decide

theorem unifyLines_eq {cs : List Char} (h : ∀ c ∈ cs, c ≠ '\r') : unifyLines cs = cs := by
  induction cs with
  | nil => rfl
  | cons c cs ih =>
    have hc := h c (List.mem_cons_self ..)
    rw [unifyLines, ih fun d hd => h d (List.mem_cons_of_mem c hd)]
    · rintro rest rfl
      exact absurd rfl hc
    · rintro rfl
      exact absurd rfl hc

theorem getLast?_line (l : Line) : l.chars.getLast? = some '\n' := by
  cases l with
  | blank => rfl
  | code d first items => simp [Line.chars]

theorem withLastLineEnd_lineChars (lines : List Line) : withLastLineEnd (lineChars lines) = lineChars lines := by
  rcases List.eq_nil_or_concat lines with rfl | ⟨lines, l, rfl⟩
  · rfl
  · have hlast : (lineChars (lines ++ [l])).getLast? = some '\n' := by
      rw [lineChars, List.flatMap_append, List.flatMap_singleton, List.getLast?_append, getLast?_line]
      rfl
    rw [List.concat_eq_append, withLastLineEnd, hlast]
    simp

/-- A source written line by line is cut into the tokens of its words. -/
theorem tokens?_lines {lines : List Line} (hsound : ∀ l ∈ lines, l.Sound) (hfits : ∀ l ∈ lines, l.fits = true)
    (hstep : stepwise 0 lines = true) : tokens? (lineChars lines) = some (lineTokens 0 lines) := by
  have hplain := unifyLines_eq fun c hc => (ordinary_lineChars hsound c hc).1
  unfold tokens?
  rw [hplain, withLastLineEnd_lineChars]
  exact lexes_lines hsound hfits hstep _ (Nat.le_refl _)

end SchemaConcord.Source
