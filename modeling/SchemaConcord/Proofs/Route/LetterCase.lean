import Mathlib.Data.List.Forall2
import SchemaConcord.Proofs.Route.SqlReaders
import SchemaConcord.Proofs.Text.Case

/-!
# Letter case in statements

Reading operations from a text commutes with making its letters small (`operations_small`): every step finds the same
words in the same places. So two texts that differ in the case of letters only hold the same operations, up to the case
of the columns (`operations_alike`).
-/

namespace SchemaConcord.SqlText

open Text

/-! ## Words -/

/-- Two steps that fit after a change of the input fit after a step before them, too. -/
theorem bind_map_comm {α β : Type} {f : α → α} {k : β → β} {g g' : α → Option β} (h : ∀ a, g' (f a) = (g a).map k)
    (x : Option α) : (x.map f).bind g' = (x.bind g).map k := by
  cases x with
  | none => rfl
  | some a => exact h a

theorem afterWord?_small (word cs : List Char) : afterWord? word (small cs) = (afterWord? word cs).map small := by
  induction word generalizing cs with
  | nil => rfl
  | cons w word ih =>
    cases cs with
    | nil => rfl
    | cons c cs =>
      rw [small_cons, afterWord?, afterWord?, sameLetter_asciiLower, ih]
      split <;> rfl

theorem afterBlanks?_small (cs : List Char) : afterBlanks? (small cs) = (afterBlanks? cs).map small := by
  rw [afterBlanks?, afterBlanks?, head?_map_small isBlank_asciiLower, dropWhile_small isBlank_asciiLower]
  split <;> rfl

theorem startsWord_small (before : Option Char) (cs : List Char) :
    startsWord (before.map asciiLower) (small cs) = startsWord before cs := by
  rw [startsWord, startsWord, head?_map_small isWord_asciiLower]
  cases before with
  | none => rfl
  | some c => rw [Option.map_some, Option.map_some, Option.map_some, isWord_asciiLower]

theorem endsWord_small (cs : List Char) : endsWord (small cs) = endsWord cs := by
  rw [endsWord, head?_map_small isWord_asciiLower, endsWord]

theorem isTableChar_asciiLower (c : Char) : isTableChar (asciiLower c) = isTableChar c :=
  asciiLower_invariant (by decide) c

theorem table?_small (cs : List Char) : table? (small cs) = (table? cs).map (Prod.map small small) := by
  rw [table?, table?, afterBlanks?_small]
  refine bind_map_comm (fun rest => ?_) _
  rw [takeWhile_small isTableChar_asciiLower, dropWhile_small isTableChar_asciiLower]
  dsimp only
  rw [isEmpty_small]
  split <;> rfl

/-! ## Statement forms -/

def Form.small (f : Form) : Form := ⟨Text.small f.table, f.columns.map Text.small⟩

theorem upToFrom?_small (before : Option Char) (cs : List Char) :
    upToFrom? (before.map asciiLower) (small cs) = (upToFrom? before cs).map Form.small := by
  induction cs generalizing before with
  | nil => rfl
  | cons c cs ih =>
    have hhere : (afterWord? "from".toList (small (c :: cs))).bind table? =
        ((afterWord? "from".toList (c :: cs)).bind table?).map (Prod.map small small) := by
      rw [afterWord?_small]
      exact bind_map_comm table?_small _
    have hstart := startsWord_small before (c :: cs)
    have hrest := ih (some c)
    rw [Option.map_some] at hrest
    rw [small_cons] at hhere hstart ⊢
    rw [upToFrom?, upToFrom?, hstart, hhere, hrest]
    generalize (afterWord? "from".toList (c :: cs)).bind table? = found
    cases startsWord before (c :: cs) with
    | false => simp [Form.small, Function.comp_def]
    | true => cases found <;> simp [Form.small, Function.comp_def]

theorem select?_small (cs : List Char) : select? (small cs) = (select? cs).map Form.small := by
  rw [select?, select?, afterWord?_small]
  refine bind_map_comm (fun rest => ?_) _
  rw [endsWord_small]
  split
  · exact upToFrom?_small (some 't') rest
  · rfl

theorem parenthesized?_small (cs : List Char) : parenthesized? (small cs) = (parenthesized? cs).map small := by
  have hdrop := dropWhile_small isBlank_asciiLower cs
  have hclose (rest : List Char) : (small rest).takeWhile (· != ')') = small (rest.takeWhile (· != ')')) :=
    takeWhile_small (asciiLower_invariant (by decide)) rest
  by_cases hopen : (cs.dropWhile isBlank).head? = some '('
  · obtain ⟨rest, hrest⟩ := List.head?_eq_some_iff.mp hopen
    rw [hrest, small_cons] at hdrop
    rw [parenthesized?_of_open hdrop, parenthesized?_of_open hrest, hclose, length_small, length_small]
    split <;> rfl
  · have hopen' : ((small cs).dropWhile isBlank).head? ≠ some '(' := by
      rwa [hdrop, ne_eq, head?_small_eq_some (by decide)]
    rw [parenthesized?_eq_none hopen, parenthesized?_eq_none hopen']
    rfl

theorem insert?_small (cs : List Char) : insert? (small cs) = (insert? cs).map Form.small := by
  rw [insert?, insert?, afterWord?_small]
  refine bind_map_comm (fun rest => ?_) _
  rw [afterBlanks?_small]
  refine bind_map_comm (fun rest => ?_) _
  rw [afterWord?_small]
  refine bind_map_comm (fun rest => ?_) _
  rw [table?_small]
  refine bind_map_comm (fun found => ?_) _
  obtain ⟨name, rest⟩ := found
  show some (Form.mk (Text.small name) (parenthesized? (Text.small rest))) = _
  rw [parenthesized?_small]
  rfl

theorem endsAssignments_small (before : Option Char) (cs : List Char) :
    endsAssignments (before.map asciiLower) (small cs) = endsAssignments before cs := by
  have hnewline : (small cs == ['\n']) = (cs == ['\n']) := small_beq_mark (by decide) cs
  have hword (w : String) : ((afterWord? w.toList (small cs)).map endsWord).getD false =
      ((afterWord? w.toList cs).map endsWord).getD false := by
    rw [afterWord?_small, Option.map_map]
    exact congrArg (fun f => ((afterWord? w.toList cs).map f).getD false) (funext endsWord_small)
  simp only [endsAssignments, small_beq_nil, hnewline, startsWord_small, hword]

theorem assignments_small (before : Option Char) (cs : List Char) :
    assignments (before.map asciiLower) (small cs) = small (assignments before cs) := by
  induction cs generalizing before with
  | nil => rfl
  | cons c cs ih =>
    have hends := endsAssignments_small before (c :: cs)
    have hrest := ih (some c)
    rw [Option.map_some] at hrest
    rw [small_cons] at hends ⊢
    rw [assignments, assignments, hends, hrest]
    split <;> rfl

theorem update?_small (cs : List Char) : update? (small cs) = (update? cs).map Form.small := by
  rw [update?, update?, afterWord?_small]
  refine bind_map_comm (fun rest => ?_) _
  rw [table?_small]
  refine bind_map_comm (fun found => ?_) _
  obtain ⟨name, rest⟩ := found
  show (afterBlanks? (small rest)).bind _ = Option.map Form.small ((afterBlanks? rest).bind _)
  rw [afterBlanks?_small]
  refine bind_map_comm (fun rest => ?_) _
  rw [afterWord?_small]
  refine bind_map_comm (fun rest => ?_) _
  rw [afterBlanks?_small]
  refine bind_map_comm (fun rest => ?_) _
  have hassigned : assignments (some ' ') (small rest) = small (assignments (some ' ') rest) :=
    assignments_small (some ' ') rest
  rw [hassigned]
  rfl

theorem delete?_small (cs : List Char) : delete? (small cs) = (delete? cs).map Form.small := by
  rw [delete?, delete?, afterWord?_small]
  refine bind_map_comm (fun rest => ?_) _
  rw [afterBlanks?_small]
  refine bind_map_comm (fun rest => ?_) _
  rw [afterWord?_small]
  refine bind_map_comm (fun rest => ?_) _
  rw [table?_small]
  refine bind_map_comm (fun found => ?_) _
  rfl

theorem form?_small (cs : List Char) : form? (small cs) = (form? cs).map (Prod.map id Form.small) := by
  rw [form?, form?, select?_small, insert?_small, update?_small, delete?_small]
  cases select? cs with
  | some f => rfl
  | none =>
    cases insert? cs with
    | some f => rfl
    | none =>
      cases update? cs with
      | some f => rfl
      | none => cases delete? cs <;> rfl

theorem firstForm?_small (before : Option Char) (cs : List Char) :
    firstForm? (before.map asciiLower) (small cs) = (firstForm? before cs).map (Prod.map id Form.small) := by
  induction cs generalizing before with
  | nil => rfl
  | cons c cs ih =>
    have hstart := startsWord_small before (c :: cs)
    have hform := form?_small (c :: cs)
    have hrest := ih (some c)
    rw [Option.map_some] at hrest
    rw [small_cons] at hstart hform ⊢
    rw [firstForm?, firstForm?, hstart, hform, hrest]
    generalize form? (c :: cs) = found
    cases startsWord before (c :: cs) with
    | false => rfl
    | true => cases found <;> rfl

/-! ## Names of columns -/

theorem isQuote_asciiLower (c : Char) : isQuote (asciiLower c) = isQuote c :=
  asciiLower_invariant (by decide) c

theorem isDecoration_asciiLower (c : Char) : isDecoration (asciiLower c) = isDecoration c :=
  asciiLower_invariant (by decide) c

theorem without_small {p : Char → Bool} (h : ∀ c, p (asciiLower c) = p c) (cs : List Char) :
    without p (small cs) = small (without p cs) := by
  rw [without, without, head?_map_small h]
  split
  · exact (List.map_drop ..).symm
  · rfl

theorem isQualifying_asciiLower (c : Char) : isQualifying (asciiLower c) = isQualifying c :=
  asciiLower_invariant (by decide) c

theorem unqualified_small (cs : List Char) : unqualified (small cs) = small (unqualified cs) := by
  have hqualifier := takeWhile_small isQualifying_asciiLower cs
  have hdrop : (small cs).drop ((small cs).takeWhile isQualifying).length =
      small (cs.drop (cs.takeWhile isQualifying).length) := by
    rw [hqualifier, length_small]
    exact (List.map_drop ..).symm
  by_cases hdot : (cs.drop (cs.takeWhile isQualifying).length).head? = some '.'
  · obtain ⟨tail, htail⟩ := List.head?_eq_some_iff.mp hdot
    rw [htail, small_cons] at hdrop
    by_cases hne : cs.takeWhile isQualifying = []
    · rw [unqualified_of_ne (.inl hne), unqualified_of_ne (.inl (by rw [hqualifier, hne, small_nil]))]
    · have hne' : (small cs).takeWhile isQualifying ≠ [] := by rwa [hqualifier, ne_eq, small, List.map_eq_nil_iff]
      rw [unqualified_of_dot hne htail, unqualified_of_dot hne' hdrop]
  · have hdot' : ((small cs).drop ((small cs).takeWhile isQualifying).length).head? ≠ some '.' := by
      rwa [hdrop, ne_eq, head?_small_eq_some (by decide)]
    rw [unqualified_of_ne (.inr hdot), unqualified_of_ne (.inr hdot')]

theorem endsColumn_small (cs : List Char) : endsColumn (small cs) = endsColumn cs := by
  rw [endsColumn, isEmpty_small, afterBlanks?_small, bind_map_comm (afterWord?_small "as".toList),
    bind_map_comm afterBlanks?_small, endsColumn]
  cases ((afterBlanks? cs).bind (afterWord? "as".toList)).bind afterBlanks? with
  | none => rfl
  | some other => simp only [Option.map_some, Option.any_some, isEmpty_small, all_small isWord_asciiLower]

theorem simpleColumn?_small (cs : List Char) : simpleColumn? (small cs) = (simpleColumn? cs).map small := by
  rw [simpleColumn?_eq, simpleColumn?_eq, unqualified_small, without_small isQuote_asciiLower]
  dsimp only
  rw [takeWhile_small isWord_asciiLower, dropWhile_small isWord_asciiLower, without_small isQuote_asciiLower,
    isEmpty_small, endsColumn_small]
  split <;> rfl

/-! ## Selected columns -/

theorem isComma_asciiLower (c : Char) : (asciiLower c == ',') = (c == ',') := asciiLower_beq (by decide) c

/-- The text with its ASCII letters made small. -/
def lowered (s : String) : String := String.ofList (small s.toList)

@[simp]
theorem lowered_ofList (cs : List Char) : lowered (String.ofList cs) = String.ofList (small cs) := by
  rw [lowered, String.toList_ofList]

theorem map_ofList_small (names : List (List Char)) :
    (names.map small).map String.ofList = (names.map String.ofList).map lowered := by
  simp

theorem withoutDistinct_small (text : List Char) : withoutDistinct (small text) = small (withoutDistinct text) := by
  have hrest : (afterWord? "distinct".toList ((small text).dropWhile isBlank)).bind afterBlanks? =
      ((afterWord? "distinct".toList (text.dropWhile isBlank)).bind afterBlanks?).map small := by
    rw [dropWhile_small isBlank_asciiLower, afterWord?_small]
    exact bind_map_comm afterBlanks?_small _
  rw [withoutDistinct, hrest, withoutDistinct]
  cases (afterWord? "distinct".toList (text.dropWhile isBlank)).bind afterBlanks? <;> rfl

theorem selectColumns_small (text : List Char) :
    selectColumns (small text) = (selectColumns text).map (List.map lowered) := by
  have hparts : ∀ parts : List (List Char),
      (parts.map small).mapM (fun part => (simpleColumn? (trim isBlank part)).map String.ofList) =
        (parts.mapM fun part => (simpleColumn? (trim isBlank part)).map String.ofList).map (List.map lowered) := by
    intro parts
    induction parts with
    | nil => rfl
    | cons part parts ih =>
      rw [List.map_cons, List.mapM_cons, List.mapM_cons, ih, trim_small isBlank_asciiLower, simpleColumn?_small]
      cases simpleColumn? (trim isBlank part) with
      | none => rfl
      | some name =>
        cases parts.mapM fun part => (simpleColumn? (trim isBlank part)).map String.ofList <;> simp
  have hstar (cs : List Char) : (small cs == ['*']) = (cs == ['*']) := small_beq_mark (by decide) cs
  rw [selectColumns_eq, withoutDistinct_small, trim_small isBlank_asciiLower, splitAt_small isComma_asciiLower, hparts,
    small_beq_nil, hstar, selectColumns_eq]
  split <;> rfl

/-! ## Assigned and inserted columns -/

theorem opensName_asciiLower (c : Char) : opensName (asciiLower c) = opensName c :=
  asciiLower_invariant (by decide) c

theorem closesName_asciiLower (c : Char) : closesName (asciiLower c) = closesName c :=
  asciiLower_invariant (by decide) c

theorem assignee_small (cs : List Char) : assignee (small cs) = small (assignee cs) := by
  rw [assignee, dropWhile_small isBlank_asciiLower, without_small opensName_asciiLower, assignee]

theorem afterAssignee_small (cs : List Char) : afterAssignee (small cs) = small (afterAssignee cs) := by
  rw [afterAssignee, assignee_small, dropWhile_small isWord_asciiLower, without_small closesName_asciiLower,
    dropWhile_small isBlank_asciiLower, afterAssignee]

theorem assigned?_small (cs : List Char) : assigned? (small cs) = (assigned? cs).map (Prod.map small small) := by
  have hafter := afterAssignee_small cs
  by_cases hequals : (afterAssignee cs).head? = some '='
  · obtain ⟨tail, htail⟩ := List.head?_eq_some_iff.mp hequals
    rw [htail, small_cons] at hafter
    rw [assigned?_of_equals htail, assigned?_of_equals hafter, assignee_small, takeWhile_small isWord_asciiLower,
      isEmpty_small]
    split <;> rfl
  · have hequals' : (afterAssignee (small cs)).head? ≠ some '=' := by
      rwa [hafter, ne_eq, head?_small_eq_some (by decide)]
    rw [assigned?_eq_none hequals, assigned?_eq_none hequals']
    rfl

theorem assignedAfterCommas_small (skip : Nat) (cs : List Char) :
    assignedAfterCommas skip (small cs) = (assignedAfterCommas skip cs).map small := by
  induction cs generalizing skip with
  | nil => rfl
  | cons c cs ih =>
    cases skip with
    | succ skip => exact ih skip
    | zero =>
      rw [small_cons, assignedAfterCommas, assignedAfterCommas, isComma_asciiLower, assigned?_small]
      cases c == ',' with
      | false => exact ih 0
      | true =>
        cases assigned? cs with
        | none => exact ih 0
        | some found =>
          obtain ⟨name, tail⟩ := found
          show small name :: assignedAfterCommas ((small cs).length - (small tail).length) (small cs) = _
          rw [length_small, length_small, ih]
          rfl

theorem assignedNames_small (text : List Char) : assignedNames (small text) = (assignedNames text).map small := by
  rw [assignedNames, assigned?_small, assignedNames]
  cases assigned? text with
  | none => exact assignedAfterCommas_small 0 text
  | some found =>
    show small found.1 :: assignedAfterCommas ((small text).length - (small found.2).length) (small text) = _
    rw [length_small, length_small, assignedAfterCommas_small]
    rfl

theorem updateColumns_small (text : List Char) :
    updateColumns (small text) = (updateColumns text).map (List.map lowered) := by
  rw [updateColumns_eq, assignedNames_small, List.isEmpty_map, map_ofList_small, updateColumns_eq]
  split <;> rfl

theorem isBare_asciiLower (c : Char) : isBare (asciiLower c) = isBare c := by
  rw [isBare, isDecoration_asciiLower, isBlank_asciiLower, isBare]

theorem insertedNames_small (text : List Char) : insertedNames (small text) = (insertedNames text).map small := by
  rw [insertedNames, splitAt_small isComma_asciiLower, List.map_map, List.filter_map, insertedNames, List.filter_map,
    List.map_map]
  simp only [Function.comp_def, filter_small isBare_asciiLower, isEmpty_small]

theorem insertColumns_small (text : Option (List Char)) :
    insertColumns (text.map small) = (insertColumns text).map (List.map lowered) := by
  cases text with
  | none => rfl
  | some text =>
    rw [Option.map_some, insertColumns_some, insertedNames_small, List.isEmpty_map, map_ofList_small,
      insertColumns_some]
    split <;> rfl

/-! ## Operations -/

theorem tableName_small (raw : List Char) : tableName (small raw) = tableName raw := by
  have hdecoration : ∀ c, (!isDecoration (asciiLower c)) = !isDecoration c := fun c => by rw [isDecoration_asciiLower]
  have hdot : ∀ c, (asciiLower c == '.') = (c == '.') := asciiLower_beq (by decide)
  rw [tableName, filter_small hdecoration, splitAt_small hdot, List.getLast?_map, tableName]
  cases (splitAt (· == '.') (raw.filter (!isDecoration ·))).getLast? with
  | none => rfl
  | some name => exact congrArg String.ofList (lower_small name)

/-- The operation with the names of its columns in small letters. -/
def loweredColumns (op : Operation) : Operation := { op with columns := op.columns.map (List.map lowered) }

theorem operation_small (kind : OperationKind) (f : Form) :
    operation kind f.small = loweredColumns (operation kind f) := by
  have htext : (f.columns.map small).getD [] = small (f.columns.getD []) := by cases f.columns <;> rfl
  unfold operation loweredColumns Form.small
  cases kind with
  | select => simp only [tableName_small, htext, selectColumns_small]
  | insert => simp only [tableName_small, insertColumns_small]
  | update => simp only [tableName_small, htext, updateColumns_small]
  | delete => simp only [tableName_small, Option.map_none]

theorem operations_small (sql : String) : operations (lowered sql) = (operations sql).map loweredColumns := by
  have hmark : ∀ c, (asciiLower c == ';') = (c == ';') := asciiLower_beq (by decide)
  have hstatement (statement : List Char) :
      statementOperation? (small statement) = (statementOperation? statement).map loweredColumns := by
    have hform : firstForm? none (small statement) = (firstForm? none statement).map (Prod.map id Form.small) :=
      firstForm?_small none statement
    rw [statementOperation?, hform, statementOperation?]
    cases firstForm? none statement with
    | none => rfl
    | some found => exact congrArg some (operation_small found.1 found.2)
  rw [operations_eq, lowered, String.toList_ofList, splitAt_small hmark, List.filterMap_map, operations_eq,
    List.map_filterMap]
  exact congrArg (List.filterMap · _) (funext hstatement)

/-- Two texts differ at most in the case of ASCII letters. -/
def AlikeButCase (s t : String) : Prop := s.toList.map asciiLower = t.toList.map asciiLower

instance (s t : String) : Decidable (AlikeButCase s t) :=
  decEq (s.toList.map asciiLower) (t.toList.map asciiLower)

theorem alikeButCase_iff {s t : String} : AlikeButCase s t ↔ lowered s = lowered t :=
  ⟨congrArg String.ofList, fun h => String.ofList_inj.mp h⟩

/-- Operations of one kind on one table whose columns differ at most in the case of ASCII letters. -/
structure OperationsAlike (a b : Operation) : Prop where
  kind : a.kind = b.kind
  table : a.table = b.table
  columns : Option.Rel (List.Forall₂ AlikeButCase) a.columns b.columns

theorem operationsAlike_of_loweredColumns {a b : Operation} (h : loweredColumns a = loweredColumns b) :
    OperationsAlike a b := by
  obtain ⟨hkind, htable, hcolumns⟩ := Operation.mk.inj h
  refine ⟨hkind, htable, ?_⟩
  cases ha : a.columns with
  | none =>
    rw [ha, Option.map_none, eq_comm, Option.map_eq_none_iff] at hcolumns
    rw [hcolumns]
    exact .none
  | some names =>
    rw [ha, Option.map_some, eq_comm, Option.map_eq_some_iff] at hcolumns
    obtain ⟨names', hb, hnames⟩ := hcolumns
    rw [hb]
    rw [eq_comm, ← List.forall₂_eq_eq_eq, List.forall₂_map_left_iff, List.forall₂_map_right_iff] at hnames
    exact .some (hnames.imp fun _ _ => alikeButCase_iff.mpr)

/-- Texts that differ only in the case of letters hold the same operations. -/
theorem operations_alike {s t : String} (h : AlikeButCase s t) :
    List.Forall₂ OperationsAlike (operations s) (operations t) := by
  have hlowered : (operations s).map loweredColumns = (operations t).map loweredColumns := by
    rw [← operations_small, ← operations_small, alikeButCase_iff.mp h]
  rw [← List.forall₂_eq_eq_eq, List.forall₂_map_left_iff, List.forall₂_map_right_iff] at hlowered
  exact hlowered.imp fun _ _ => operationsAlike_of_loweredColumns

theorem operations_alike_users :
    AlikeButCase "SELECT Id FROM Users; DELETE FROM Posts" "select ID from users; Delete From posts" ∧
      List.Forall₂ OperationsAlike (operations "SELECT Id FROM Users; DELETE FROM Posts")
        (operations "select ID from users; Delete From posts") :=
  ⟨by decide, operations_alike (by decide)⟩

/-- The columns keep the case they are written in, the table does not. -/
example : operations "Select Id From Users" = [⟨.select, "users", some ["Id"]⟩] := by decide +kernel

end SchemaConcord.SqlText
