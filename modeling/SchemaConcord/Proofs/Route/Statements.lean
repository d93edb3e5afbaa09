import Mathlib.Data.List.Basic
import SchemaConcord.Proofs.Route.SqlReaders
import SchemaConcord.Proofs.Text.Case
import SchemaConcord.Proofs.Text.Edit

/-!
# Simple statements

Statements that select, insert, update or delete with plain columns of one table are read back from their texts: each
gives the one operation that it stands for (`operations_written`). The names in it may hold a word of a statement, as
`fromage` does, and are not taken for it: a word is looked for at the beginning of a name only, and what begins there is
the name itself or goes on as a name does (`afterWord?_name`).
-/

namespace SchemaConcord.SqlText

open Text

/-! ## Statements -/

def nameChars : List Char := "abcdefghijklmnopqrstuvwxyz0123456789_".toList

def reserved : List (List Char) :=
  ["select", "distinct", "from", "as", "insert", "into", "update", "set", "where", "returning", "delete"].map
    String.toList

/-- A name of small letters, digits and underscores that is no word of a statement. -/
structure Identifier where
  chars : List Char
  ne_nil : chars ≠ []
  plain : ∀ c ∈ chars, c ∈ nameChars
  free : chars ∉ reserved

def Identifier.text (n : Identifier) : String := String.ofList n.chars

/-- A value bound to the name by a placeholder. -/
def Identifier.bound (n : Identifier) : List Char := n.chars ++ (" = :".toList ++ n.chars)

inductive TablePart where
  | bare (name : Identifier)
  | quoted (name : Identifier)

def TablePart.name : TablePart → Identifier
  | bare n | quoted n => n

def TablePart.chars : TablePart → List Char
  | bare n => n.chars
  | quoted n => '"' :: (n.chars ++ ['"'])

/-- A table as it is written, with the schema before a dot where there is one. -/
structure WrittenTable where
  schema : Option TablePart := none
  table : TablePart

def WrittenTable.chars (t : WrittenTable) : List Char :=
  match t.schema with
  | none => t.table.chars
  | some s => s.chars ++ '.' :: t.table.chars

def WrittenTable.name (t : WrittenTable) : String := t.table.name.text

/-- One column or more. -/
structure ColumnList where
  first : Identifier
  more : List Identifier

def ColumnList.names (cs : ColumnList) : List String := (cs.first :: cs.more).map Identifier.text

def ColumnList.listed (cs : ColumnList) : List Char :=
  [',', ' '].intercalate ((cs.first :: cs.more).map Identifier.chars)

def ColumnList.assigned (cs : ColumnList) : List Char :=
  [',', ' '].intercalate ((cs.first :: cs.more).map Identifier.bound)

inductive Statement where
  | select (columns : ColumnList) (table : WrittenTable)
  | selectAll (table : WrittenTable)
  | insert (table : WrittenTable) (columns : ColumnList)
  | update (table : WrittenTable) (columns : ColumnList) (key : Identifier)
  | delete (table : WrittenTable) (key : Identifier)

namespace Statement

def chars : Statement → List Char
  | select cs t => "SELECT ".toList ++ (cs.listed ++ (" FROM ".toList ++ t.chars))
  | selectAll t => "SELECT * FROM ".toList ++ t.chars
  | insert t cs => "INSERT INTO ".toList ++ (t.chars ++ (" (".toList ++ (cs.listed ++ [')'])))
  | update t cs k => "UPDATE ".toList ++ (t.chars ++ (" SET ".toList ++ (cs.assigned ++ (" WHERE ".toList ++ k.bound))))
  | delete t k => "DELETE FROM ".toList ++ (t.chars ++ (" WHERE ".toList ++ k.bound))

def operation : Statement → Operation
  | select cs t => { kind := .select, table := t.name, columns := some cs.names }
  | selectAll t => { kind := .select, table := t.name }
  | insert t cs => { kind := .insert, table := t.name, columns := some cs.names }
  | update t cs _ => { kind := .update, table := t.name, columns := some cs.names }
  | delete t _ => { kind := .delete, table := t.name }

end Statement

/-- Statements one after the other. -/
def written (statements : List Statement) : String :=
  String.ofList ("; ".toList.intercalate (statements.map Statement.chars))

/-! ## Names -/

/-- Marks between the names. -/
def marks : List Char := [' ', ',', '=', ':', '*']

theorem nameChars_word : ∀ c ∈ nameChars, isWord c = true := forall_of_all (by decide)

theorem nameChars_blank : ∀ c ∈ nameChars, isBlank c = false := forall_of_all (by decide)

theorem nameChars_small : ∀ c ∈ nameChars, lowerChar c = c ∧ c.toNat < 128 := forall_of_all (by decide)

theorem sameLetter_nameChars : ∀ w ∈ nameChars, ∀ c ∈ nameChars, sameLetter w c = true → w = c := by
  intro w hw c hc h
  obtain ⟨hw, hwcode⟩ := nameChars_small w hw
  obtain ⟨hc, hccode⟩ := nameChars_small c hc
  have hforeign {d : Char} (hd : d.toNat < 128) : (d.toNat == 305) = false ∧ (d.toNat == 383) = false :=
    ⟨beq_false_of_ne (by omega), beq_false_of_ne (by omega)⟩
  simpa only [sameLetter, hw, hc, (hforeign hwcode).1, (hforeign hwcode).2, (hforeign hccode).1, (hforeign hccode).2,
    Bool.false_eq_true, if_false, beq_iff_eq] using h

theorem sameLetter_marks : ∀ w ∈ nameChars, ∀ c ∈ marks, sameLetter w c = false := by
  have hall : (nameChars.all fun w => marks.all fun c => decide (sameLetter w c = false)) = true := by decide
  exact fun w hw => forall_of_all (List.all_eq_true.mp hall w hw)

theorem reserved_nameChars : ∀ w ∈ reserved, w ≠ [] ∧ ∀ c ∈ w, c ∈ nameChars := by
  have hall : (reserved.all fun w => w.all fun c => decide (c ∈ nameChars)) = true := by decide
  have hne : ∀ w ∈ reserved, w ≠ [] := by decide
  exact fun w hw => ⟨hne w hw, forall_of_all (List.all_eq_true.mp hall w hw)⟩

theorem Identifier.forall_chars {p : Char → Prop} (n : Identifier) (h : ∀ c ∈ nameChars, p c) : ∀ c ∈ n.chars, p c :=
  fun c hc => h c (n.plain c hc)

/-- A word that begins where a name does is the name, or a character of a name follows it. -/
theorem afterWord?_name {word name rest tail : List Char} (hword : ∀ c ∈ word, c ∈ nameChars)
    (hname : ∀ c ∈ name, c ∈ nameChars) (hrest : ∀ c ∈ rest.head?, c ∈ marks)
    (h : afterWord? word (name ++ rest) = some tail) : word = name ∨ ∃ c ∈ tail.head?, c ∈ nameChars := by
  -- Word and name side by side: behind the shorter of them stands a mark or a character of the name.
  induction word generalizing name with
  | nil =>
    cases h
    cases name with
    | nil => exact .inl rfl
    | cons c name => exact .inr ⟨c, rfl, hname c (List.mem_cons_self ..)⟩
  | cons w word ih =>
    have hw := hword w (List.mem_cons_self ..)
    cases name with
    | nil =>
      cases rest with
      | nil => cases h
      | cons c rest =>
        rw [List.nil_append, afterWord?, sameLetter_marks w hw c (hrest c rfl), if_neg Bool.false_ne_true] at h
        cases h
    | cons c name =>
      rw [List.cons_append, afterWord?] at h
      split at h
      · next hsame =>
        rw [sameLetter_nameChars w hw c (hname c (List.mem_cons_self ..)) hsame]
        rcases ih (fun d hd => hword d (List.mem_cons_of_mem w hd)) (fun d hd => hname d (List.mem_cons_of_mem c hd)) h
          with rfl | htail
        · exact .inl rfl
        · exact .inr htail
      · cases h

/-! ## Texts clear of words -/

/-- None of the words stands here, though a longer name may begin with one. -/
def Passed (words : List (List Char)) (before : Option Char) (cs : List Char) : Prop :=
  startsWord before cs = true → ∀ w ∈ words, ∀ tail, afterWord? w cs = some tail → ∃ c ∈ tail.head?, c ∈ nameChars

/-- None of the words stands in the text, as the rest follows it. -/
def Clear (words : List (List Char)) : Option Char → List Char → List Char → Prop
  | _, [], _ => True
  | before, c :: cs, rest => Passed words before (c :: (cs ++ rest)) ∧ Clear words (some c) cs rest

section
variable {words : List (List Char)} (hwords : words ⊆ reserved)

theorem Clear.append {before : Option Char} {cs ds rest : List Char} (h : Clear words before cs (ds ++ rest))
    (hnext : ∀ before, Clear words before ds rest) : Clear words before (cs ++ ds) rest := by
  induction cs generalizing before with
  | nil => exact hnext before
  | cons c cs ih =>
    refine ⟨?_, ih h.2⟩
    show Passed words before (c :: (cs ++ ds ++ rest))
    rw [List.append_assoc]
    exact h.1

theorem clear_inside {c : Char} (hc : isWord c = true) {cs : List Char} (hcs : ∀ c ∈ cs, isWord c = true)
    (rest : List Char) : Clear words (some c) cs rest := by
  induction cs generalizing c with
  | nil => trivial
  | cons d cs ih =>
    have hd := hcs d (List.mem_cons_self ..)
    refine ⟨fun hstart => ?_, ih hd fun e he => hcs e (List.mem_cons_of_mem d he)⟩
    simp [startsWord, hc, hd] at hstart

include hwords

theorem clear_marks {cs : List Char} (h : ∀ c ∈ cs, c ∈ marks) (before : Option Char) (rest : List Char) :
    Clear words before cs rest := by
  induction cs generalizing before with
  | nil => trivial
  | cons c cs ih =>
    refine ⟨fun _ word hword tail htail => ?_, ih (fun d hd => h d (List.mem_cons_of_mem c hd)) (some c)⟩
    obtain ⟨hne, hchars⟩ := reserved_nameChars word (hwords hword)
    obtain ⟨w, ws, rfl⟩ := List.exists_cons_of_ne_nil hne
    have hother := sameLetter_marks w (hchars w (List.mem_cons_self ..)) c (h c (List.mem_cons_self ..))
    rw [afterWord?, hother, if_neg Bool.false_ne_true] at htail
    cases htail

theorem clear_name (n : Identifier) {rest : List Char} (hrest : ∀ c ∈ rest.head?, c ∈ marks) (before : Option Char) :
    Clear words before n.chars rest := by
  have hfound {word tail : List Char} (hword : word ∈ words) (htail : afterWord? word (n.chars ++ rest) = some tail) :
      ∃ c ∈ tail.head?, c ∈ nameChars := by
    rcases afterWord?_name (reserved_nameChars word (hwords hword)).2 n.plain hrest htail with rfl | hnext
    · exact absurd (hwords hword) n.free
    · exact hnext
  -- After the first character no word begins before the name ends.
  have hchars := n.forall_chars nameChars_word
  obtain ⟨c, cs, hcs⟩ := List.exists_cons_of_ne_nil n.ne_nil
  rw [hcs] at hfound hchars ⊢
  refine ⟨fun _ word hword tail htail => hfound hword htail, ?_⟩
  exact clear_inside (hchars c (List.mem_cons_self ..)) (fun d hd => hchars d (List.mem_cons_of_mem c hd)) rest

theorem clear_bound (n : Identifier) {rest : List Char} (hrest : ∀ c ∈ rest.head?, c ∈ marks) (before : Option Char) :
    Clear words before n.bound rest := by
  have hmark : ∀ c ∈ (" = :".toList ++ n.chars ++ rest).head?, c ∈ marks := forall_head? (by decide)
  exact (clear_name hwords n hmark before).append fun before =>
    (clear_marks hwords (forall_of_all (by decide)) before _).append fun before => clear_name hwords n hrest before

theorem clear_intercalate {α : Type} {text : α → List Char}
    (htext : ∀ a {rest : List Char}, (∀ c ∈ rest.head?, c ∈ marks) → ∀ before, Clear words before (text a) rest)
    (as : List α) {rest : List Char} (hrest : ∀ c ∈ rest.head?, c ∈ marks) (before : Option Char) :
    Clear words before ([',', ' '].intercalate (as.map text)) rest := by
  induction as generalizing before with
  | nil => trivial
  | cons a as ih =>
    cases as with
    | nil =>
      rw [List.map_singleton, List.intercalate_singleton]
      exact htext a hrest before
    | cons b as =>
      rw [List.map_cons, List.map_cons, List.intercalate_cons_cons, ← List.map_cons, List.append_assoc]
      have hmark : ∀ c ∈ ([',', ' '] ++ [',', ' '].intercalate ((b :: as).map text) ++ rest).head?, c ∈ marks :=
        forall_head? (by decide)
      exact (htext a hmark before).append fun before =>
        (clear_marks hwords (forall_of_all (by decide)) before _).append fun before => ih before

end

theorem endsWord_of_nameChar {tail : List Char} (h : ∃ c ∈ tail.head?, c ∈ nameChars) : endsWord tail = false := by
  obtain ⟨c, hc, hname⟩ := h
  rw [endsWord, Option.mem_def.mp hc, Option.map_some, nameChars_word c hname]
  rfl

theorem afterBlanks?_of_nameChar {tail : List Char} (h : ∃ c ∈ tail.head?, c ∈ nameChars) :
    afterBlanks? tail = none := by
  obtain ⟨c, hc, hname⟩ := h
  rw [afterBlanks?, Option.mem_def.mp hc, Option.map_some, nameChars_blank c hname]
  rfl

theorem getLast?_or (c : Char) (cs : List Char) (before : Option Char) :
    (c :: cs).getLast?.or before = cs.getLast?.or (some c) := by
  rw [List.getLast?_cons]
  cases cs.getLast? <;> rfl

/-- A selection goes on through a text that is clear of the word `from`. -/
theorem upToFrom?_clear {before : Option Char} {cs rest : List Char} (h : Clear ["from".toList] before cs rest) :
    upToFrom? before (cs ++ rest) =
      (upToFrom? (cs.getLast?.or before) rest).map fun f => { f with columns := f.columns.map (cs ++ ·) } := by
  induction cs generalizing before with
  | nil =>
    rw [List.nil_append, List.getLast?_nil, Option.none_or]
    simp
  | cons c cs ih =>
    have hhere : (if startsWord before (c :: (cs ++ rest)) then
        (afterWord? "from".toList (c :: (cs ++ rest))).bind table? else none) = none := by
      by_cases hstart : startsWord before (c :: (cs ++ rest)) = true
      · rw [if_pos hstart]
        cases htail : afterWord? "from".toList (c :: (cs ++ rest)) with
        | none => rfl
        | some tail =>
          have hnext := h.1 hstart _ (List.mem_singleton_self _) tail htail
          rw [Option.bind_some, table?, afterBlanks?_of_nameChar hnext]
          rfl
      · rw [if_neg hstart]
    rw [List.cons_append, upToFrom?, hhere, ih h.2, getLast?_or, Option.map_map]
    simp [Function.comp_def]

theorem upToFrom?_found {before : Option Char} {c : Char} {cs name rest : List Char}
    (hstart : startsWord before (c :: cs) = true)
    (htable : (afterWord? "from".toList (c :: cs)).bind table? = some (name, rest)) :
    upToFrom? before (c :: cs) = some ⟨name, some []⟩ := by
  rw [upToFrom?, if_pos hstart, htable]

/-- Assignments go on through a text that is clear of the words that end them. -/
theorem assignments_clear {before : Option Char} {cs rest : List Char} (hrest : rest ≠ [])
    (h : Clear (["where", "returning", "from"].map String.toList) before cs rest) :
    assignments before (cs ++ rest) = cs ++ assignments (cs.getLast?.or before) rest := by
  induction cs generalizing before with
  | nil => rw [List.nil_append, List.nil_append, List.getLast?_nil, Option.none_or]
  | cons c cs ih =>
    have hon : endsAssignments before (c :: (cs ++ rest)) = false := by
      have hwords : (startsWord before (c :: (cs ++ rest)) && ["where", "returning", "from"].any fun w =>
          ((afterWord? w.toList (c :: (cs ++ rest))).map endsWord).getD false) = false := by
        rw [Bool.and_eq_false_imp]
        intro hstart
        rw [List.any_eq_false]
        intro w hw
        cases htail : afterWord? w.toList (c :: (cs ++ rest)) with
        | none => exact Bool.false_ne_true
        | some tail =>
          have hnext := h.1 hstart _ (List.mem_map_of_mem hw) tail htail
          rw [Option.map_some, endsWord_of_nameChar hnext]
          exact Bool.false_ne_true
      have hnewline : (c :: (cs ++ rest) == ['\n']) = false := by
        refine beq_false_of_ne fun heq => hrest ?_
        exact (List.append_eq_nil_iff.mp (List.cons.inj heq).2).2
      rw [endsAssignments, hwords, hnewline]
      rfl
    rw [List.cons_append, assignments, hon, if_neg Bool.false_ne_true, ih h.2, getLast?_or]
    rfl

/-! ## Tables -/

theorem afterBlanks?_blank {cs : List Char} (h : ∀ c ∈ cs.head?, isBlank c = false) :
    afterBlanks? (' ' :: cs) = some cs := by
  have hblank : ∀ c ∈ [' '], isBlank c = true := forall_of_all (by decide)
  rw [afterBlanks?, ← List.singleton_append, (takeWhile_run hblank h).2]
  rfl

section
variable {p : Char → Prop} (hname : ∀ c ∈ nameChars, p c) (hquote : p '"')
include hname hquote

theorem TablePart.forall_chars (t : TablePart) : ∀ c ∈ t.chars, p c := by
  cases t with
  | bare n => exact n.forall_chars hname
  | quoted n =>
    exact List.forall_mem_cons.mpr ⟨hquote, List.forall_mem_append.mpr
      ⟨n.forall_chars hname, List.forall_mem_singleton.mpr hquote⟩⟩

theorem WrittenTable.forall_chars (hdot : p '.') (t : WrittenTable) : ∀ c ∈ t.chars, p c := by
  obtain ⟨schema, table⟩ := t
  cases schema with
  | none => exact table.forall_chars hname hquote
  | some s =>
    exact List.forall_mem_append.mpr ⟨s.forall_chars hname hquote, List.forall_mem_cons.mpr
      ⟨hdot, table.forall_chars hname hquote⟩⟩

end

theorem TablePart.chars_ne_nil (t : TablePart) : t.chars ≠ [] := by
  cases t with
  | bare n => exact n.ne_nil
  | quoted n => exact List.cons_ne_nil _ _

theorem WrittenTable.chars_ne_nil (t : WrittenTable) : t.chars ≠ [] := by
  obtain ⟨schema, table⟩ := t
  cases schema with
  | none => exact table.chars_ne_nil
  | some s => exact List.append_ne_nil_of_left_ne_nil s.chars_ne_nil _

theorem table?_written (t : WrittenTable) (rest : List Char) (hrest : ∀ c ∈ rest.head?, isTableChar c = false) :
    table? (' ' :: (t.chars ++ rest)) = some (t.chars, rest) := by
  have hchars : ∀ c ∈ t.chars, isTableChar c = true :=
    t.forall_chars (forall_of_all (by decide)) (by decide) (by decide)
  have hblank : ∀ c ∈ t.chars, isBlank c = false := t.forall_chars nameChars_blank (by decide) (by decide)
  have hhead : ∀ c ∈ (t.chars ++ rest).head?, isBlank c = false := by
    rw [List.head?_append_of_ne_nil _ t.chars_ne_nil]
    exact fun c hc => hblank c (List.mem_of_mem_head? hc)
  obtain ⟨htake, hdrop⟩ := takeWhile_run hchars hrest
  have hempty : t.chars.isEmpty = false := List.isEmpty_eq_false_iff.mpr t.chars_ne_nil
  rw [table?, afterBlanks?_blank hhead]
  show (if ((t.chars ++ rest).takeWhile isTableChar).isEmpty = true then none
    else some ((t.chars ++ rest).takeWhile isTableChar, (t.chars ++ rest).dropWhile isTableChar)) = _
  rw [htake, hdrop, hempty]
  rfl

theorem TablePart.filter_chars (t : TablePart) : t.chars.filter (!isDecoration ·) = t.name.chars := by
  have hfilter (n : Identifier) : n.chars.filter (!isDecoration ·) = n.chars :=
    List.filter_eq_self.mpr (n.forall_chars (forall_of_all (by decide)))
  cases t with
  | bare n => exact hfilter n
  | quoted n =>
    have hquote : (!isDecoration '"') = false := by decide
    rw [chars, List.filter_cons_of_neg (by simp [hquote]), List.filter_append, hfilter,
      List.filter_cons_of_neg (by simp [hquote]), List.filter_nil, List.append_nil]
    rfl

theorem lower_name (n : Identifier) : lower n.chars = n.chars := by
  have hsmall : ∀ c ∈ n.chars, asciiLower c = c := n.forall_chars (forall_of_all (by decide))
  rw [lower_of_ascii (n.forall_chars (forall_of_all (by decide))), List.map_congr_left hsmall, List.map_id']

theorem tableName_written (t : WrittenTable) : tableName t.chars = t.name := by
  have hdot (n : Identifier) : ∀ c ∈ n.chars, (c == '.') = false := n.forall_chars (forall_of_all (by decide))
  obtain ⟨schema, table⟩ := t
  cases schema with
  | none =>
    show String.ofList (lower ((splitAt (· == '.') (table.chars.filter (!isDecoration ·))).getLast?.getD [])) = _
    rw [table.filter_chars, splitAt_free (hdot table.name)]
    exact congrArg String.ofList (lower_name table.name)
  | some s =>
    show String.ofList (lower ((splitAt (· == '.')
      ((s.chars ++ '.' :: table.chars).filter (!isDecoration ·))).getLast?.getD [])) = _
    rw [List.filter_append, List.filter_cons_of_pos (by decide), s.filter_chars, table.filter_chars,
      splitAt_mark (p := (· == '.')) (by decide) (hdot s.name), splitAt_free (hdot table.name)]
    exact congrArg String.ofList (lower_name table.name)

/-! ## Columns -/

theorem simpleColumn?_name (n : Identifier) : simpleColumn? n.chars = some n.chars := by
  have hqualifying : ∀ c ∈ n.chars, isQualifying c = true := n.forall_chars (forall_of_all (by decide))
  have hword : ∀ c ∈ n.chars, isWord c = true := n.forall_chars (forall_of_all (by decide))
  have hquote : ∀ c ∈ n.chars, isQuote c = false := n.forall_chars (forall_of_all (by decide))
  have hrun {p : Char → Bool} (h : ∀ c ∈ n.chars, p c = true) :
      n.chars.takeWhile p = n.chars ∧ n.chars.dropWhile p = [] := by
    have hend : ∀ c ∈ ([] : List Char).head?, p c = false := nofun
    have hwhole := takeWhile_run h hend
    rwa [List.append_nil] at hwhole
  have hunqualified : unqualified n.chars = n.chars := by
    refine unqualified_of_ne (.inr ?_)
    rw [(hrun hqualifying).1, List.drop_length]
    exact nofun
  have hwithout : without isQuote n.chars = n.chars := by
    obtain ⟨c, cs, hcs⟩ := List.exists_cons_of_ne_nil n.ne_nil
    rw [hcs] at hquote ⊢
    rw [without, List.head?_cons, Option.map_some, hquote c (List.mem_cons_self ..)]
    rfl
  have hempty : n.chars.isEmpty = false := List.isEmpty_eq_false_iff.mpr n.ne_nil
  rw [simpleColumn?_eq, hunqualified, hwithout]
  dsimp only
  rw [(hrun hword).1, (hrun hword).2, hempty]
  rfl

theorem ColumnList.listed_eq (cs : ColumnList) :
    cs.listed = cs.first.chars ++ (cs.more.map Identifier.chars).flatMap ([',', ' '] ++ ·) := by
  rw [listed, List.map_cons, intercalate_cons]

theorem ColumnList.listed_ne_nil (cs : ColumnList) : cs.listed ≠ [] := by
  rw [listed_eq]
  exact List.append_ne_nil_of_left_ne_nil cs.first.ne_nil _

/-- A list of columns begins and ends with a name. -/
theorem ColumnList.listed_ends (cs : ColumnList) :
    (∀ c ∈ cs.listed.head?, c ∈ nameChars) ∧ ∀ c ∈ cs.listed.getLast?, c ∈ nameChars := by
  have hne : (cs.first :: cs.more).map Identifier.chars ≠ [] := List.cons_ne_nil _ _
  have hmem {n : List Char} (h : n ∈ (cs.first :: cs.more).map Identifier.chars) : n ≠ [] ∧ ∀ c ∈ n, c ∈ nameChars := by
    obtain ⟨m, -, rfl⟩ := List.mem_map.mp h
    exact ⟨m.ne_nil, m.plain⟩
  obtain ⟨⟨more, hmore⟩, front, hfront⟩ := intercalate_ends [',', ' '] hne
  obtain ⟨hfirst, hfirstChars⟩ := hmem (List.head_mem hne)
  obtain ⟨hlast, hlastChars⟩ := hmem (List.getLast_mem hne)
  constructor
  · rw [listed, hmore, List.head?_append_of_ne_nil _ hfirst]
    exact fun c hc => hfirstChars c (List.mem_of_mem_head? hc)
  · rw [listed, hfront, List.getLast?_append_of_ne_nil _ hlast]
    exact fun c hc => hlastChars c (List.mem_of_mem_getLast? hc)

theorem ColumnList.splitAt_listed (cs : ColumnList) :
    splitAt (· == ',') cs.listed = cs.first.chars :: cs.more.map fun n => ' ' :: n.chars := by
  have hcomma : ∀ piece ∈ (cs.first :: cs.more).map Identifier.chars, ',' ∉ piece := by
    intro piece hpiece hmem
    obtain ⟨n, -, rfl⟩ := List.mem_map.mp hpiece
    exact absurd (n.plain ',' hmem) (by decide)
  rw [listed, List.map_cons, splitAt_spaced (by decide) hcomma, List.map_map]
  rfl

theorem withoutDistinct_listed (cs : ColumnList) :
    withoutDistinct (' ' :: (cs.listed ++ [' '])) = ' ' :: (cs.listed ++ [' ']) := by
  have hblank : ∀ c ∈ [' '], isBlank c = true := forall_of_all (by decide)
  have hhead : ∀ c ∈ (cs.listed ++ [' ']).head?, isBlank c = false := by
    rw [List.head?_append_of_ne_nil _ cs.listed_ne_nil]
    exact fun c hc => nameChars_blank c (cs.listed_ends.1 c hc)
  obtain ⟨rest, heq, hrest⟩ : ∃ rest, cs.listed ++ [' '] = cs.first.chars ++ rest ∧ ∀ c ∈ rest.head?, c ∈ marks := by
    refine ⟨_, by rw [cs.listed_eq, List.append_assoc], ?_⟩
    cases cs.more with
    | nil => exact forall_head? (by decide)
    | cons n more => exact forall_head? (by decide)
  have hnone : (afterWord? "distinct".toList (cs.listed ++ [' '])).bind afterBlanks? = none := by
    rw [heq]
    cases htail : afterWord? "distinct".toList (cs.first.chars ++ rest) with
    | none => rfl
    | some tail =>
      rcases afterWord?_name (forall_of_all (by decide)) cs.first.plain hrest htail with heq | hnext
      · exact absurd (heq ▸ by decide) cs.first.free
      · exact afterBlanks?_of_nameChar hnext
  rw [withoutDistinct, ← List.singleton_append, (takeWhile_run hblank hhead).2, hnone]

theorem selectColumns_listed (cs : ColumnList) : selectColumns (' ' :: (cs.listed ++ [' '])) = some cs.names := by
  have hblank : ∀ c ∈ [' '], isBlank c = true := forall_of_all (by decide)
  have hfree (n : Identifier) : ∀ c ∈ n.chars, isBlank c = false := n.forall_chars nameChars_blank
  have htrim : trim isBlank (' ' :: (cs.listed ++ [' '])) = cs.listed :=
    trim_enclosed hblank hblank (fun c hc => nameChars_blank c (cs.listed_ends.1 c hc)) fun c hc =>
      nameChars_blank c (cs.listed_ends.2 c hc)
  have hempty : (cs.listed == []) = false := beq_false_of_ne cs.listed_ne_nil
  -- A star stands for all columns, and is in no name.
  have hstar : (cs.listed == ['*']) = false := by
    refine beq_false_of_ne fun heq => ?_
    have hhead := cs.listed_ends.1 '*' (by rw [heq]; rfl)
    exact absurd hhead (by decide)
  have hfirst : (simpleColumn? (trim isBlank cs.first.chars)).map String.ofList = some cs.first.text := by
    rw [trim_of_free (hfree cs.first), simpleColumn?_name]
    rfl
  have hmore (n : Identifier) : (simpleColumn? (trim isBlank (' ' :: n.chars))).map String.ofList = some n.text := by
    have hspaced : trim isBlank (' ' :: n.chars) = n.chars := by
      have hend : ∀ c ∈ ([] : List Char), isBlank c = true := nofun
      have h := trim_enclosed hblank hend (fun c hc => hfree n c (List.mem_of_mem_head? hc)) fun c hc =>
        hfree n c (List.mem_of_mem_getLast? hc)
      rwa [List.append_nil] at h
    rw [hspaced, simpleColumn?_name]
    rfl
  have hrest : (cs.more.map fun n => ' ' :: n.chars).mapM
      (fun part => (simpleColumn? (trim isBlank part)).map String.ofList) = some (cs.more.map Identifier.text) := by
    rw [List.mapM_map]
    exact (congrArg (cs.more.mapM ·) (funext hmore)).trans List.mapM_pure
  rw [selectColumns_eq, withoutDistinct_listed, htrim, hempty, hstar, cs.splitAt_listed, List.mapM_cons, hfirst, hrest]
  rfl

theorem insertedNames_listed (cs : ColumnList) :
    insertedNames cs.listed = (cs.first :: cs.more).map Identifier.chars := by
  have hfilter (n : Identifier) : n.chars.filter isBare = n.chars :=
    List.filter_eq_self.mpr (n.forall_chars (forall_of_all (by decide)))
  have hspaced (n : Identifier) : (' ' :: n.chars).filter isBare = n.chars := by
    rw [List.filter_cons_of_neg (by decide), hfilter]
  have hnames : (splitAt (· == ',') cs.listed).map (·.filter isBare) = (cs.first :: cs.more).map Identifier.chars := by
    rw [cs.splitAt_listed, List.map_cons, List.map_map, hfilter]
    exact congrArg (cs.first.chars :: ·) (List.map_congr_left fun n _ => hspaced n)
  rw [insertedNames, hnames]
  refine List.filter_eq_self.mpr fun name hname => ?_
  obtain ⟨n, -, rfl⟩ := List.mem_map.mp hname
  simpa using n.ne_nil

/-! ## Assigned columns -/

theorem assigned?_name {blanks : List Char} (hblanks : ∀ c ∈ blanks, isBlank c = true) (n : Identifier)
    (tail : List Char) : assigned? (blanks ++ (n.chars ++ ' ' :: '=' :: tail)) = some (n.chars, tail) := by
  have hblank : ∀ c ∈ (n.chars ++ ' ' :: '=' :: tail).head?, isBlank c = false := by
    rw [List.head?_append_of_ne_nil _ n.ne_nil]
    exact fun c hc => nameChars_blank c (n.plain c (List.mem_of_mem_head? hc))
  have hassignee : assignee (blanks ++ (n.chars ++ ' ' :: '=' :: tail)) = n.chars ++ ' ' :: '=' :: tail := by
    have hopens : ∀ c ∈ nameChars, opensName c = false := forall_of_all (by decide)
    obtain ⟨c, cs, hcs⟩ := List.exists_cons_of_ne_nil n.ne_nil
    have hc := hopens c (n.plain c (hcs ▸ List.mem_cons_self ..))
    rw [assignee, (takeWhile_run hblanks hblank).2, hcs, List.cons_append, without, List.head?_cons, Option.map_some,
      hc]
    rfl
  have hrest : ∀ c ∈ (' ' :: '=' :: tail).head?, isWord c = false := forall_head? (by decide)
  obtain ⟨htake, hdrop⟩ := takeWhile_run (n.forall_chars nameChars_word) hrest
  have hafter : afterAssignee (blanks ++ (n.chars ++ ' ' :: '=' :: tail)) = '=' :: tail := by
    rw [afterAssignee, hassignee, hdrop]
    rfl
  have hempty : n.chars.isEmpty = false := List.isEmpty_eq_false_iff.mpr n.ne_nil
  rw [assigned?_of_equals hafter, hassignee, htake, hempty]
  rfl

theorem assignedAfterCommas_skip (cs rest : List Char) :
    assignedAfterCommas cs.length (cs ++ rest) = assignedAfterCommas 0 rest := by
  induction cs with
  | nil => rfl
  | cons c cs ih => exact ih

theorem assignedAfterCommas_free {cs : List Char} (h : ',' ∉ cs) (rest : List Char) :
    assignedAfterCommas 0 (cs ++ rest) = assignedAfterCommas 0 rest := by
  induction cs with
  | nil => rfl
  | cons c cs ih =>
    rw [List.mem_cons, not_or] at h
    rw [List.cons_append, assignedAfterCommas, if_neg (by simpa using Ne.symm h.1)]
    exact ih h.2

theorem assignedAfterCommas_comma {cs tail name : List Char} (h : assigned? (cs ++ tail) = some (name, tail)) :
    assignedAfterCommas 0 (',' :: (cs ++ tail)) = name :: assignedAfterCommas 0 tail := by
  rw [assignedAfterCommas, if_pos (by decide), h]
  dsimp only
  rw [List.length_append, Nat.add_sub_cancel, assignedAfterCommas_skip]

theorem assignedNames_first {cs tail name : List Char} (h : assigned? (cs ++ tail) = some (name, tail)) :
    assignedNames (cs ++ tail) = name :: assignedAfterCommas 0 tail := by
  rw [assignedNames, h]
  dsimp only
  rw [List.length_append, Nat.add_sub_cancel, assignedAfterCommas_skip]

/-- A bound name, written after blanks, is assigned to. -/
theorem assigned?_bound (blanks : List Char) (hblanks : ∀ c ∈ blanks, isBlank c = true) (n : Identifier)
    (rest : List Char) :
    ∃ front back, blanks ++ (n.bound ++ rest) = front ++ (back ++ rest) ∧ ',' ∉ back ∧
      assigned? (front ++ (back ++ rest)) = some (n.chars, back ++ rest) := by
  -- The front goes up to the equals sign, the back is the placeholder.
  refine ⟨blanks ++ (n.chars ++ " =".toList), " :".toList ++ n.chars, ?_, ?_, ?_⟩
  · rw [Identifier.bound, List.append_assoc, List.append_assoc, List.append_assoc, List.append_assoc, List.append_assoc]
    rfl
  · rw [List.mem_append, not_or]
    exact ⟨by decide, fun h => absurd (n.plain ',' h) (by decide)⟩
  · rw [List.append_assoc, List.append_assoc]
    exact assigned?_name hblanks n _

theorem assignedAfterCommas_bound (ns : List Identifier) :
    assignedAfterCommas 0 ((ns.map Identifier.bound).flatMap ([',', ' '] ++ ·) ++ [' ']) = ns.map Identifier.chars := by
  induction ns with
  | nil => rfl
  | cons n ns ih =>
    obtain ⟨front, back, heq, hcomma, hassigned⟩ := assigned?_bound [' '] (forall_of_all (by decide)) n
      ((ns.map Identifier.bound).flatMap ([',', ' '] ++ ·) ++ [' '])
    rw [List.map_cons, List.flatMap_cons, List.append_assoc, List.append_assoc]
    show assignedAfterCommas 0 (',' :: ([' '] ++ (n.bound ++ _))) = _
    rw [heq, assignedAfterCommas_comma hassigned, assignedAfterCommas_free hcomma, ih]
    rfl

theorem assignedNames_assigned (cs : ColumnList) :
    assignedNames (cs.assigned ++ [' ']) = (cs.first :: cs.more).map Identifier.chars := by
  obtain ⟨front, back, heq, hcomma, hassigned⟩ := assigned?_bound [] nofun cs.first
    ((cs.more.map Identifier.bound).flatMap ([',', ' '] ++ ·) ++ [' '])
  rw [List.nil_append] at heq
  rw [ColumnList.assigned, List.map_cons, intercalate_cons, List.append_assoc, heq, assignedNames_first hassigned,
    assignedAfterCommas_free hcomma, assignedAfterCommas_bound, List.map_cons]

/-! ## Reading a statement -/

/-- What the form of a statement yields. -/
def Statement.form : Statement → OperationKind × Form
  | select cs t => (.select, ⟨t.chars, some (' ' :: (cs.listed ++ [' ']))⟩)
  | selectAll t => (.select, ⟨t.chars, some [' ', '*', ' ']⟩)
  | insert t cs => (.insert, ⟨t.chars, some cs.listed⟩)
  | update t cs _ => (.update, ⟨t.chars, some (cs.assigned ++ [' '])⟩)
  | delete t _ => (.delete, ⟨t.chars, none⟩)

theorem table?_last (t : WrittenTable) : table? (' ' :: t.chars) = some (t.chars, []) := by
  have h := table?_written t [] nofun
  rwa [List.append_nil] at h

theorem select?_clear (t : WrittenTable) (cs : List Char)
    (hclear : Clear ["from".toList] (some 't') (' ' :: cs) ("FROM ".toList ++ t.chars))
    (hlast : (' ' :: cs).getLast? = some ' ') :
    select? ("SELECT".toList ++ (' ' :: cs ++ ("FROM ".toList ++ t.chars))) = some ⟨t.chars, some (' ' :: cs)⟩ := by
  have hfrom : upToFrom? (some ' ') ("FROM ".toList ++ t.chars) = some ⟨t.chars, some []⟩ :=
    upToFrom?_found (by rfl) (table?_last t)
  show upToFrom? (some 't') (' ' :: cs ++ ("FROM ".toList ++ t.chars)) = _
  rw [upToFrom?_clear hclear, hlast, Option.some_or, hfrom]
  show some (Form.mk t.chars (some (' ' :: cs ++ []))) = _
  rw [List.append_nil]

theorem select?_listed (cs : ColumnList) (t : WrittenTable) :
    select? (Statement.select cs t).chars = some ⟨t.chars, some (' ' :: (cs.listed ++ [' ']))⟩ := by
  have hwords : ["from".toList] ⊆ reserved := by decide
  have hlisted : ∀ before, Clear ["from".toList] before cs.listed (' ' :: ("FROM ".toList ++ t.chars)) :=
    clear_intercalate hwords (clear_name hwords) _ (forall_head? (by decide))
  have hclear : Clear ["from".toList] (some 't') ([' '] ++ (cs.listed ++ [' '])) ("FROM ".toList ++ t.chars) :=
    (clear_marks hwords (forall_of_all (by decide)) _ _).append fun before =>
      (hlisted before).append fun before => clear_marks hwords (forall_of_all (by decide)) _ _
  have hlast : (' ' :: (cs.listed ++ [' '])).getLast? = some ' ' := by
    rw [← List.cons_append, List.getLast?_concat]
  have hchars : (Statement.select cs t).chars =
      "SELECT".toList ++ (' ' :: (cs.listed ++ [' ']) ++ ("FROM ".toList ++ t.chars)) := by
    rw [List.cons_append, List.append_assoc]
    rfl
  rw [hchars, select?_clear t (cs.listed ++ [' ']) hclear hlast]

theorem select?_star (t : WrittenTable) :
    select? (Statement.selectAll t).chars = some ⟨t.chars, some [' ', '*', ' ']⟩ :=
  select?_clear t ['*', ' '] (clear_marks (by decide) (forall_of_all (by decide)) _ _) rfl

theorem parenthesized?_listed (cs : ColumnList) :
    parenthesized? (" (".toList ++ (cs.listed ++ [')'])) = some cs.listed := by
  have hinside : ∀ c ∈ cs.listed, (c != ')') = true := by
    refine forall_intercalate (forall_of_all (by decide)) fun piece hpiece => ?_
    obtain ⟨n, -, rfl⟩ := List.mem_map.mp hpiece
    exact n.forall_chars (forall_of_all (by decide))
  have hclose : ∀ c ∈ [')'].head?, (c != ')') = false := forall_head? (by decide)
  have hopen : (" (".toList ++ (cs.listed ++ [')'])).dropWhile isBlank = '(' :: (cs.listed ++ [')']) := rfl
  rw [parenthesized?_of_open hopen, (takeWhile_run hinside hclose).1, if_pos (by simp)]

theorem insert?_chars (t : WrittenTable) (cs : ColumnList) :
    insert? (Statement.insert t cs).chars = some ⟨t.chars, some cs.listed⟩ := by
  have htable := table?_written t (" (".toList ++ (cs.listed ++ [')'])) (forall_head? (by decide))
  show ((table? (' ' :: (t.chars ++ (" (".toList ++ (cs.listed ++ [')']))))).bind fun found =>
    some (Form.mk found.1 (parenthesized? found.2))) = _
  rw [htable, Option.bind_some, parenthesized?_listed]

theorem assignments_assigned (cs : ColumnList) (k : Identifier) :
    assignments (some ' ') (cs.assigned ++ (" WHERE ".toList ++ k.bound)) = cs.assigned ++ [' '] := by
  have hwords : ["where", "returning", "from"].map String.toList ⊆ reserved := by decide
  have hclear : Clear (["where", "returning", "from"].map String.toList) (some ' ') (cs.assigned ++ [' '])
      ("WHERE ".toList ++ k.bound) :=
    (clear_intercalate hwords (clear_bound hwords) _ (forall_head? (by decide)) _).append fun before =>
      clear_marks hwords (forall_of_all (by decide)) before _
  have hend : assignments (some ' ') ("WHERE ".toList ++ k.bound) = [] := rfl
  have hne : "WHERE ".toList ++ k.bound ≠ [] := List.append_ne_nil_of_left_ne_nil (by decide) _
  have h := assignments_clear hne hclear
  rwa [List.getLast?_concat, Option.some_or, hend, List.append_nil, List.append_assoc] at h

theorem update?_chars (t : WrittenTable) (cs : ColumnList) (k : Identifier) :
    update? (Statement.update t cs k).chars = some ⟨t.chars, some (cs.assigned ++ [' '])⟩ := by
  have htable := table?_written t (" SET ".toList ++ (cs.assigned ++ (" WHERE ".toList ++ k.bound)))
    (forall_head? (by decide))
  have hassigned : afterBlanks? (' ' :: (cs.assigned ++ (" WHERE ".toList ++ k.bound))) =
      some (cs.assigned ++ (" WHERE ".toList ++ k.bound)) := by
    refine afterBlanks?_blank ?_
    rw [ColumnList.assigned, List.map_cons, intercalate_cons, Identifier.bound, List.append_assoc, List.append_assoc,
      List.head?_append_of_ne_nil _ cs.first.ne_nil]
    exact fun c hc => nameChars_blank c (cs.first.plain c (List.mem_of_mem_head? hc))
  show ((table? (' ' :: (t.chars ++ (" SET ".toList ++ (cs.assigned ++ (" WHERE ".toList ++ k.bound)))))).bind
    fun found => (afterBlanks? found.2).bind fun rest => (afterWord? "set".toList rest).bind fun rest =>
      (afterBlanks? rest).bind fun rest => some (Form.mk found.1 (some (assignments (some ' ') rest)))) = _
  rw [htable]
  show ((afterBlanks? (' ' :: (cs.assigned ++ (" WHERE ".toList ++ k.bound)))).bind fun rest =>
    some (Form.mk t.chars (some (assignments (some ' ') rest)))) = _
  rw [hassigned, Option.bind_some, assignments_assigned]

theorem delete?_chars (t : WrittenTable) (k : Identifier) :
    delete? (Statement.delete t k).chars = some ⟨t.chars, none⟩ := by
  have htable := table?_written t (" WHERE ".toList ++ k.bound) (forall_head? (by decide))
  show ((table? (' ' :: (t.chars ++ (" WHERE ".toList ++ k.bound)))).bind fun found => some (Form.mk found.1 none)) = _
  rw [htable]
  rfl

theorem form?_chars (s : Statement) : form? s.chars = some s.form := by
  cases s with
  | select cs t => rw [form?, select?_listed]; rfl
  | selectAll t => rw [form?, select?_star]; rfl
  | insert t cs =>
    have hselect : select? (Statement.insert t cs).chars = none := rfl
    rw [form?, hselect, insert?_chars]
    rfl
  | update t cs k =>
    have hselect : select? (Statement.update t cs k).chars = none := rfl
    have hinsert : insert? (Statement.update t cs k).chars = none := rfl
    rw [form?, hselect, hinsert, update?_chars]
    rfl
  | delete t k =>
    have hselect : select? (Statement.delete t k).chars = none := rfl
    have hinsert : insert? (Statement.delete t k).chars = none := rfl
    have hupdate : update? (Statement.delete t k).chars = none := rfl
    rw [form?, hselect, hinsert, hupdate, delete?_chars]
    rfl

theorem operation_form (s : Statement) : operation s.form.1 s.form.2 = s.operation := by
  have hnames (cs : ColumnList) : ((cs.first :: cs.more).map Identifier.chars).map String.ofList = cs.names := by
    rw [List.map_map]
    rfl
  cases s with
  | select cs t =>
    show Operation.mk .select (tableName t.chars) (selectColumns (' ' :: (cs.listed ++ [' ']))) = _
    rw [tableName_written, selectColumns_listed]
    rfl
  | selectAll t =>
    have hstar : selectColumns [' ', '*', ' '] = none := by decide
    show Operation.mk .select (tableName t.chars) (selectColumns [' ', '*', ' ']) = _
    rw [tableName_written, hstar]
    rfl
  | insert t cs =>
    show Operation.mk .insert (tableName t.chars) (insertColumns (some cs.listed)) = _
    rw [tableName_written, insertColumns_some, insertedNames_listed, hnames]
    rfl
  | update t cs k =>
    show Operation.mk .update (tableName t.chars) (updateColumns (cs.assigned ++ [' '])) = _
    rw [tableName_written, updateColumns_eq, assignedNames_assigned, hnames]
    rfl
  | delete t k =>
    show Operation.mk .delete (tableName t.chars) none = _
    rw [tableName_written]
    rfl

/-! ## Reading statements in turn -/

theorem Statement.semicolon_not_mem (s : Statement) : ';' ∉ s.chars := by
  have hboth {as bs : List Char} (has : ';' ∉ as) (hbs : ';' ∉ bs) : ';' ∉ as ++ bs := by
    rw [List.mem_append, not_or]
    exact ⟨has, hbs⟩
  have hname (n : Identifier) : ';' ∉ n.chars := fun h => absurd (n.plain ';' h) (by decide)
  have hbound (n : Identifier) : ';' ∉ n.bound := hboth (hname n) (hboth (by decide) (hname n))
  have htable (t : WrittenTable) : ';' ∉ t.chars := fun h =>
    t.forall_chars (p := (· ≠ ';')) (forall_of_all (by decide)) (by decide) (by decide) ';' h rfl
  have hlist {f : Identifier → List Char} (hf : ∀ n, ';' ∉ f n) (ns : List Identifier) :
      ';' ∉ [',', ' '].intercalate (ns.map f) := fun h =>
    forall_intercalate (p := (· ≠ ';')) (forall_of_all (by decide))
      (List.forall_mem_map.mpr fun n _ c hc heq => hf n (heq ▸ hc)) ';' h rfl
  cases s with
  | select cs t => exact hboth (by decide) (hboth (hlist hname _) (hboth (by decide) (htable t)))
  | selectAll t => exact hboth (by decide) (htable t)
  | insert t cs =>
    exact hboth (by decide) (hboth (htable t) (hboth (by decide) (hboth (hlist hname _) (by decide))))
  | update t cs k =>
    exact hboth (by decide) (hboth (htable t) (hboth (by decide)
      (hboth (hlist hbound _) (hboth (by decide) (hbound k)))))
  | delete t k => exact hboth (by decide) (hboth (htable t) (hboth (by decide) (hbound k)))

theorem firstForm?_first {before : Option Char} {c : Char} {cs : List Char} {f : OperationKind × Form}
    (hstart : startsWord before (c :: cs) = true) (h : form? (c :: cs) = some f) :
    firstForm? before (c :: cs) = some f := by
  rw [firstForm?, if_pos hstart, h]

/-- A statement is found at its beginning, or after the blank that parts it from the one before. -/
theorem firstForm?_chars (s : Statement) :
    firstForm? none s.chars = some s.form ∧ firstForm? none (' ' :: s.chars) = some s.form := by
  have hword : ∃ c cs, s.chars = c :: cs ∧ isWord c = true := by
    cases s with
    | select cs t => exact ⟨'S', _, rfl, by decide⟩
    | selectAll t => exact ⟨'S', _, rfl, by decide⟩
    | insert t cs => exact ⟨'I', _, rfl, by decide⟩
    | update t cs k => exact ⟨'U', _, rfl, by decide⟩
    | delete t k => exact ⟨'D', _, rfl, by decide⟩
  obtain ⟨c, cs, hcs, hc⟩ := hword
  have hform := form?_chars s
  rw [hcs] at hform
  have hstart {before : Option Char} (hbefore : (before.map isWord).getD false = false) :
      startsWord before (c :: cs) = true := by
    simp [startsWord, hbefore, hc]
  have hfirst : firstForm? none (c :: cs) = some s.form := firstForm?_first (hstart rfl) hform
  have hnext : firstForm? (some ' ') (c :: cs) = some s.form := firstForm?_first (hstart (by decide)) hform
  rw [hcs]
  exact ⟨hfirst, hnext⟩

/-- Statements one after the other are read as the operations that they stand for, in their order. -/
theorem operations_written (statements : List Statement) :
    operations (written statements) = statements.map Statement.operation := by
  cases statements with
  | nil => rfl
  | cons s more =>
    have hsplit : splitAt (· == ';') ("; ".toList.intercalate ((s :: more).map Statement.chars)) =
        s.chars :: (more.map Statement.chars).map (' ' :: ·) := by
      refine splitAt_spaced (by decide) fun piece (hpiece : piece ∈ (s :: more).map Statement.chars) => ?_
      obtain ⟨s, -, rfl⟩ := List.mem_map.mp hpiece
      exact s.semicolon_not_mem
    have hfirst : statementOperation? s.chars = some s.operation := by
      rw [statementOperation?, (firstForm?_chars s).1]
      exact congrArg some (operation_form s)
    have hnext (s : Statement) : statementOperation? (' ' :: s.chars) = some s.operation := by
      rw [statementOperation?, (firstForm?_chars s).2]
      exact congrArg some (operation_form s)
    rw [operations_eq, written, String.toList_ofList, hsplit, List.filterMap_cons, hfirst, List.filterMap_map,
      List.filterMap_map, List.map_cons]
    exact congrArg (s.operation :: ·) ((congrArg (List.filterMap · more) (funext hnext)).trans
      (congrFun List.filterMap_eq_map more))

example :
    let price : Identifier := ⟨"price".toList, by decide, forall_of_all (by decide), by decide⟩
    let fromage : Identifier := ⟨"fromage".toList, by decide, forall_of_all (by decide), by decide⟩
    (Statement.update ⟨some (.bare fromage), .quoted price⟩ ⟨price, [fromage]⟩ fromage).chars =
      "UPDATE fromage.\"price\" SET price = :price, fromage = :fromage WHERE fromage = :fromage".toList := by
  decide

end SchemaConcord.SqlText
