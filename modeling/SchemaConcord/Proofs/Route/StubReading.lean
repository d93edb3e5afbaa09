import SchemaConcord.Proofs.Route.StubHandlers

/-!
# Reading a stub

What the grammar makes of the rest of a stub, its imports, its router and its input models, and with the handlers of the
whole (`Table.exists_statedLines`).
-/

namespace SchemaConcord

open Source

namespace Stub

/-! ## Imports and router -/

theorem exists_stated_line {w : Word} {items : List Item} (hsound : w.Sound ∧ SoundItems items)
    (hfits : openAfter? [] w items = some []) (hreads : ReadsLine (.code 0 w items)) :
    ∃ ns, Stated [.code 0 w items] ns := by
  obtain ⟨hbegins, ns, hreads⟩ := hreads
  have htokens : lineTokens 0 [.code 0 w items] = (Line.code 0 w items).tokens := rfl
  exact ⟨ns, {
    sound := List.forall_mem_singleton.mpr ((sound_code 0 w items).mpr hsound)
    fits := List.forall_mem_singleton.mpr (beq_iff_eq.mpr hfits)
    steps := rfl
    outermost := rfl
    begins := hbegins
    reads := htokens ▸ hreads.mono (by decide) (by decide) }⟩

theorem exists_stated_from {source x : String} {names : List String} (hsource : (Word.name source).Sound)
    (hnames : ∀ y ∈ x :: names, (Word.name y).Sound) (hlength : names.length ≤ 3) :
    ∃ ns, Stated (fromLine source (x :: names)) ns := by
  have hfixed := fixedWords_sound
  simp only [fixedWords, writtenOps, List.map_cons, List.map_nil, List.cons_append, List.nil_append,
    List.forall_mem_cons] at hfixed
  have hmore : SoundItems (names.flatMap fun y => [tight (.op ","), spaced (.name y)]) := by
    intro i hi
    obtain ⟨y, hy, hi⟩ := List.mem_flatMap.mp hi
    have hy : SoundItems [tight (.op ","), spaced (.name y)] := by
      simp only [tight, spaced, soundItems_cons, soundItems_nil, hfixed, hnames y (List.mem_cons_of_mem x hy), and_self]
    exact hy i hi
  have hfirst : SoundItems [spaced (.name source), spaced (.keyword "import"), spaced (.name x)] := by
    simp only [spaced, soundItems_cons, soundItems_nil, hfixed, hsource, hnames x (List.mem_cons_self ..), and_self]
  have hfew : names = [] ∨ (∃ a, names = [a]) ∨ (∃ a b, names = [a, b]) ∨ ∃ a b c, names = [a, b, c] := by
    rcases names with _ | ⟨a, _ | ⟨b, _ | ⟨c, _ | ⟨d, more⟩⟩⟩⟩
    · simp
    · simp
    · simp
    · simp
    · simp only [List.length_cons] at hlength
      omega
  refine exists_stated_line ⟨by simp only [hfixed], (soundItems_append _ _).mpr ⟨hfirst, hmore⟩⟩ ?_ ?_
  · rcases hfew with rfl | ⟨a, rfl⟩ | ⟨a, b, rfl⟩ | ⟨a, b, c, rfl⟩ <;> rfl
  · rcases hfew with rfl | ⟨a, rfl⟩ | ⟨a, b, rfl⟩ | ⟨a, b, c, rfl⟩ <;> exact .of_eq (by decide) fun _ _ _ => rfl

theorem exists_statedLines_from (source : String) (names : List String) (hsource : (Word.name source).Sound)
    (hnames : ∀ y ∈ names, (Word.name y).Sound) (hlength : names.length ≤ 4) :
    ∃ ns, StatedLines (fromLine source names) ns := by
  cases names with
  | nil => exact ⟨[], .finished⟩
  | cons x names =>
    obtain ⟨ns, hns⟩ := exists_stated_from hsource hnames (Nat.le_of_succ_le_succ hlength)
    exact ⟨ns, .one hns⟩

theorem exists_statedLines_imports (types : List ValueType) (needsField : Bool) :
    ∃ ns, StatedLines (importLines types needsField) ns := by
  have hfixed := fixedWords_sound
  simp only [fixedWords, writtenOps, List.map_cons, List.map_nil, List.cons_append, List.nil_append,
    List.forall_mem_cons] at hfixed
  have htimes : ∀ y ∈ timeWords types, (Word.name y).Sound := by
    intro y hy
    obtain ⟨v, hv, rfl⟩ := List.mem_map.mp hy
    have hv := List.mem_of_mem_filter hv
    simp only [List.mem_cons, List.not_mem_nil, or_false] at hv
    rcases hv with rfl | rfl | rfl <;> simp only [ValueType.word, hfixed]
  have htimesLength : (timeWords types).length ≤ 4 := by
    rw [timeWords, List.length_map]
    exact Nat.le_trans (List.length_filter_le ..) (by decide)
  obtain ⟨n₁, h₁⟩ := exists_statedLines_from "datetime" _ (by simp only [hfixed]) htimes htimesLength
  obtain ⟨n₂, h₂⟩ := exists_statedLines_from "typing" ["Any"] (by simp only [hfixed])
    (by simp only [List.forall_mem_singleton, hfixed]) (by decide)
  obtain ⟨n₃, h₃⟩ : ∃ ns, StatedLines (fromLine "uuid" (if types.contains .uuid then ["UUID"] else [])) ns := by
    refine exists_statedLines_from _ _ (by simp only [hfixed]) ?_ ?_
    · split
      · simp only [List.forall_mem_singleton, hfixed]
      · exact List.forall_mem_nil _
    · split <;> decide
  obtain ⟨n₄, h₄⟩ := exists_statedLines_from "fastapi"
    ["APIRouter", "Depends", "HTTPException", "Response"] (by simp only [hfixed])
    (by simp only [List.forall_mem_cons, List.not_mem_nil, false_imp_iff, implies_true, hfixed, and_self]) (by decide)
  obtain ⟨n₅, h₅⟩ : ∃ ns, StatedLines (fromLine "pydantic" ("BaseModel" :: if needsField then ["Field"] else [])) ns := by
    refine exists_statedLines_from _ _ (by simp only [hfixed]) ?_ ?_
    · cases needsField <;>
        simp only [if_true, Bool.false_eq_true, if_false, List.forall_mem_cons, List.not_mem_nil, false_imp_iff,
          implies_true, hfixed, and_self]
    · cases needsField <;> decide
  exact ⟨_, (((h₁.append h₂).append h₃).append (.blank .finished)).append h₄ |>.append h₅⟩

theorem exists_stated_doc {table : String} (h : (docLine table).Sound) : ∃ ns, Stated [docLine table] ns := by
  have hwords := (sound_code _ _ _).mp h
  have hplain := hwords.1
  have hreads := ReadsStatement.text fun hc => (hplain _ hc).2.1 rfl
  exact exists_stated_line hwords rfl (nested_word (by simp [Fresh, Word.token]) ⟨_, hreads.mono (by decide) (Nat.le_refl 0)⟩)

theorem exists_stated_router {resource : String} (h : (Word.text resource).Sound) :
    ∃ ns, Stated [routerLine resource] ns := by
  have hfixed := fixedWords_sound
  simp only [fixedWords, writtenOps, List.map_cons, List.map_nil, List.cons_append, List.nil_append,
    List.forall_mem_cons] at hfixed
  have hrouter := assigned_ne_match "router" (by decide)
  have hargs : ReadsArguments 2 _ _ _ :=
    .option (.named (spelled "tags") ((ReadsPrimary.textList h.escapeFree).expression (by decide) (by decide))) (by simp)
      .none
  have hcall := (ReadsPrimary.call hargs (spelled "APIRouter")).expression (by simp [Leads]) (by simp)
  have hreads := ReadsStatement.assignment hrouter (by simp) (by simp) hcall (by decide)
  refine exists_stated_line ⟨by simp only [hfixed], ?_⟩ rfl (nested_word (w := .name "router") (by decide) ⟨_, hreads⟩)
  simp only [tight, spaced, soundItems_cons, soundItems_nil, hfixed, h, and_self]

theorem exists_stated_database : ∃ ns, Stated databaseLines ns := by
  have hfixed := fixedWords_sound
  simp only [fixedWords, writtenOps, List.map_cons, List.map_nil, List.cons_append, List.nil_append,
    List.forall_mem_cons] at hfixed
  have hdocText : '\\' ∉ "Return the application's database client.".toList := by decide
  have hraiseText : '\\' ∉ "Connect get_db to the application's database client".toList := by decide
  have hdoc := ReadsStatement.text hdocText
  have hargs : ReadsArguments 1 _ _ _ := .position
    (.text hraiseText) (by simp) .none
  have hraise := ReadsStatement.raise _
    ((ReadsPrimary.call hargs (spelled "NotImplementedError")).expression (by simp [Leads]) (by simp))
  obtain ⟨_, hbody⟩ := exists_readsBlock (List.cons_ne_nil _ _) <| List.forall_mem_cons.mpr
    ⟨nested_word (w := .doc _) (by simp [Fresh, Word.token]) ⟨_, hdoc.mono (by decide : 1 ≤ 3) (Nat.le_refl 0)⟩,
      List.forall_mem_singleton.mpr <| nested_word (w := .keyword "raise") (by decide)
        ⟨_, hraise.mono (by decide) (Nat.le_refl 0)⟩⟩
  have hparameters : ∀ d, 3 ≤ d → Reads (fun _ => True) ((Inner.within d).parameters true ")") [.op ")"] (.other []) :=
    fun _ _ _ _ => rfl
  have hall := ReadsStatement.asynchronous (spelled "get_db") hparameters
    ((ReadsExpression.name (spelled "Any")).mono (by decide)) hbody
  have htext : (Word.doc "Return the application's database client.").Sound := by decide +kernel
  refine ⟨_, ?_, ?_, rfl, rfl, ⟨_, _, rfl, by decide, by decide⟩, hall.mono (by decide) (by decide)⟩
  · simp only [databaseLines, tight, spaced, List.forall_mem_cons, List.not_mem_nil, false_imp_iff, implies_true,
      sound_code, soundItems_cons, soundItems_nil, hfixed, htext, and_self]
  · rw [← List.all_eq_true]
    rfl

/-! ## Input models -/

def optionTokens (o : String × Word) : List Token := [.name (spelled o.1), .op "=", o.2.token]

theorem itemTokens_optionItems (os : List (String × Word)) :
    itemTokens (optionItems os) = argumentTokens (os.map optionTokens) := by
  cases os with
  | nil => rfl
  | cons o more =>
    simp [optionItems, itemTokens, argumentTokens, optionTokens, List.flatMap_def, tight, spaced, Word.token,
      Function.comp_def]

theorem exists_readsOptions {os : List (String × Word)} (h : ∀ o ∈ os, ∃ m, ReadsExpression 1 [o.2.token] m) :
    ∃ ms, ReadsArguments 1 (os.map optionTokens) [] ms := by
  induction os with
  | nil => exact ⟨[], .none⟩
  | cons o os ih =>
    obtain ⟨m, hm⟩ := h o (List.mem_cons_self ..)
    obtain ⟨ms, hms⟩ := ih fun x hx => h x (List.mem_cons_of_mem o hx)
    exact ⟨_, .option (.named (spelled o.1) hm) (by simp) hms⟩

theorem soundItems_options {os : List (String × Word)} (h : ∀ o ∈ os, (Word.name o.1).Sound ∧ o.2.Sound) :
    SoundItems (optionItems os) := by
  have hfixed := fixedWords_sound
  simp only [fixedWords, writtenOps, List.map_cons, List.map_nil, List.cons_append, List.nil_append,
    List.forall_mem_cons] at hfixed
  cases os with
  | nil => exact List.forall_mem_nil _
  | cons o more =>
    obtain ⟨⟨hname, hword⟩, hmore⟩ := List.forall_mem_cons.mp h
    refine (soundItems_append _ _).mpr ⟨?_, fun i hi => ?_⟩
    · simp only [tight, soundItems_cons, soundItems_nil, hfixed, hname, hword, and_self]
    · obtain ⟨x, hx, hi⟩ := List.mem_flatMap.mp hi
      have hx : SoundItems [tight (.op ","), spaced (.name x.1), tight (.op "="), tight x.2] := by
        simp only [tight, spaced, soundItems_cons, soundItems_nil, hfixed, hmore x hx, and_self]
      exact hx i hi

end Stub

/-! ### Columns -/

namespace Column

open Stub

/-- A column can be written: its attribute as a name, its own name as a text, and its length in digits. -/
structure Writable (c : Column) : Prop where
  named : (Word.name (fieldAttribute c.name)).Sound
  quoted : (Word.text c.name).Sound
  counted : ∀ n, c.lengthLimit? = some n → (Word.number n).Sound

variable {c : Column} (hc : c.Writable) (partialInput : Bool)
include hc

theorem Writable.options : ∀ o ∈ c.optionWords partialInput,
    (Word.name o.1).Sound ∧ o.2.Sound ∧ ∃ m, ReadsExpression 1 [o.2.token] m := by
  have hfixed := fixedWords_sound
  simp only [fixedWords, writtenOps, List.map_cons, List.map_nil, List.cons_append, List.nil_append,
    List.forall_mem_cons] at hfixed
  intro o ho
  simp only [optionWords, List.mem_append] at ho
  rcases ho with (ho | ho) | ho
  · split at ho
    · cases ho
    · obtain rfl := List.mem_singleton.mp ho
      exact ⟨by simp only [hfixed], by simp only [hfixed], _, .none⟩
  · split at ho
    · cases ho
    · obtain rfl := List.mem_singleton.mp ho
      exact ⟨by simp only [hfixed], hc.quoted, _, .text hc.quoted.escapeFree⟩
  · split at ho
    · next n hn =>
      obtain rfl := List.mem_singleton.mp ho
      exact ⟨by simp only [hfixed], hc.counted n hn, _, .number n⟩
    · cases ho

theorem Writable.readsValue : ReadsValue 2 (itemTokens (c.valueItems partialInput)) := by
  have hoptions := fun o ho => (hc.options partialInput o ho).2.2
  unfold valueItems
  cases hwords : c.optionWords partialInput with
  | nil => exact .inl rfl
  | cons o more =>
    rw [hwords] at hoptions
    obtain ⟨ms, hargs⟩ := exists_readsOptions hoptions
    have hcall := (ReadsPrimary.call hargs (spelled "Field")).expression (by simp [Leads]) (by simp)
    dsimp only
    split
    · exact .inr ⟨_, _, _, rfl, by decide, by decide, ReadsExpression.none.mono (by decide)⟩
    · have htokens : itemTokens ([spaced (.op "="), spaced (.name "Field"), tight (.op "(")] ++
          optionItems (o :: more) ++ [tight (.op ")")]) = .op "=" :: .name (spelled "Field") :: (.op "(" ::
            (argumentTokens ((o :: more).map optionTokens) ++ [.op ")"])) := by
        rw [← itemTokens_optionItems]
        simp [itemTokens, spaced, tight, Word.token]
      rw [htokens]
      exact .inr ⟨_, _, _, rfl, by simp, by simp, hcall⟩

theorem Writable.exists_readsField : ∃ ns, ReadsStatement 3 0 (c.inputLine partialInput).tokens ns := by
  obtain ⟨m, hkind⟩ := exists_readsInput c.valueType (c.isRequiredInput partialInput)
  have htokens : (c.inputLine partialInput).tokens = .name (spelled (fieldAttribute c.name)) :: .op ":" ::
      (itemTokens (c.inputItems partialInput) ++ (itemTokens (c.valueItems partialInput) ++ [.newline])) := by
    simp [inputLine, Line.tokens, itemTokens, tight, Word.token]
  have hvalue : ReadsValue 3 (itemTokens (c.valueItems partialInput)) := by
    rcases hc.readsValue partialInput with h | ⟨t, more, m, heq, hstar, hyield, h⟩
    · exact .inl h
    · exact .inr ⟨t, more, m, heq, hstar, hyield, h.mono (by decide)⟩
  rw [htokens]
  exact exists_readsStatement_field _ hkind hvalue (by decide)

theorem Writable.sound : (c.inputLine partialInput).Sound := by
  have hfixed := fixedWords_sound
  simp only [fixedWords, writtenOps, List.map_cons, List.map_nil, List.cons_append, List.nil_append,
    List.forall_mem_cons] at hfixed
  have hinput : SoundItems (c.inputItems partialInput) := by
    refine (soundItems_append _ _).mpr ⟨typeItems_sound _, ?_⟩
    split
    · exact List.forall_mem_nil _
    · simp only [orNone, spaced, soundItems_cons, soundItems_nil, hfixed, and_self]
  have hvalue : SoundItems (c.valueItems partialInput) := by
    have hoptions := soundItems_options fun o ho => ⟨(hc.options partialInput o ho).1, (hc.options partialInput o ho).2.1⟩
    unfold valueItems
    split
    · exact List.forall_mem_nil _
    · split
      · simp only [spaced, soundItems_cons, soundItems_nil, hfixed, and_self]
      · simp only [spaced, tight, List.cons_append, List.nil_append, soundItems_cons, soundItems_append, soundItems_nil,
          hfixed, hoptions, and_self]
  refine (sound_code _ _ _).mpr ⟨hc.named, ?_⟩
  simp only [tight, soundItems_cons, soundItems_append, hfixed, hinput, hvalue, and_self]

omit hc in
theorem inputLine_fits : (c.inputLine partialInput).fits = true := by
  unfold inputLine inputItems valueItems optionWords
  cases c.isRequiredInput partialInput <;> cases c.lengthLimit? <;> by_cases halias : fieldAttribute c.name = c.name <;>
    cases c.valueType <;> simp only [halias] <;> rfl

end Column

namespace Stub

/-! ### Classes -/

/-- A line in a class that is a statement of its own. -/
structure Member (l : Line) : Prop where
  inner : ∃ w items, l = .code 1 w items
  sound : l.Sound
  fits : l.fits = true
  reads : ReadsLine l

theorem member_inputLine {c : Column} (hc : c.Writable) (partialInput : Bool) : Member (c.inputLine partialInput) where
  inner := ⟨_, _, rfl⟩
  sound := hc.sound partialInput
  fits := Column.inputLine_fits partialInput
  reads := nested_word (w := .name (fieldAttribute c.name)) (fresh_name _) (hc.exists_readsField partialInput)

theorem member_pass : Member (.code 1 (.keyword "pass") []) where
  inner := ⟨_, _, rfl⟩
  sound := (sound_code _ _ _).mpr ⟨by decide +kernel, List.forall_mem_nil _⟩
  fits := rfl
  reads := .of_eq (by decide) fun _ _ _ => rfl

section
variable {body : List Line} (h : ∀ l ∈ body, Member l)
include h

theorem lineTokens_members : lineTokens 1 body = (body.map Line.tokens).flatten ++ [.dedent] := by
  induction body with
  | nil => rfl
  | cons l body ih =>
    obtain ⟨w, items, rfl⟩ := (h l (List.mem_cons_self ..)).inner
    rw [lineTokens, ih fun k hk => h k (List.mem_cons_of_mem _ hk)]
    simp [depthMarks, Line.tokens]

theorem stepwise_members : stepwise 0 body = true ∧ stepwise 1 body = true := by
  induction body with
  | nil => exact ⟨rfl, rfl⟩
  | cons l body ih =>
    obtain ⟨w, items, rfl⟩ := (h l (List.mem_cons_self ..)).inner
    have ih := (ih fun k hk => h k (List.mem_cons_of_mem _ hk)).2
    exact ⟨ih, ih⟩

theorem exists_stated_class {name : String} (hname : (Word.name name).Sound) (hne : body ≠ []) :
    ∃ ns, Stated (.code 0 (.keyword "class") [spaced (.name name), tight (.op "("), tight (.name "BaseModel"),
      tight (.op ")"), tight (.op ":")] :: body) ns := by
  have hfixed := fixedWords_sound
  simp only [fixedWords, writtenOps, List.map_cons, List.map_nil, List.cons_append, List.nil_append,
    List.forall_mem_cons] at hfixed
  obtain ⟨_, hblock⟩ := exists_readsBlock (mt List.map_eq_nil_iff.mp hne)
    (List.forall_mem_map.mpr fun l hl => (h l hl).reads)
  have hall := ReadsStatement.classDefinition (spelled name) (spelled "BaseModel") hblock (by decide)
  have hlines : lineTokens 0 (.code 0 (.keyword "class") [spaced (.name name), tight (.op "("), tight (.name "BaseModel"),
      tight (.op ")"), tight (.op ":")] :: body) = .keyword "class" :: .name (spelled name) :: .op "(" ::
        .name (spelled "BaseModel") :: .op ")" :: .op ":" :: .newline :: .indent ::
          ((body.map Line.tokens).flatten ++ [.dedent]) := by
    have hbody : lineTokens 0 body = .indent :: lineTokens 1 body := by
      obtain ⟨l, more, rfl⟩ := List.exists_cons_of_ne_nil hne
      obtain ⟨w, items, rfl⟩ := (h l (List.mem_cons_self ..)).inner
      rfl
    rw [lineTokens, hbody, lineTokens_members h]
    simp [depthMarks, itemTokens, spaced, tight, Word.token]
  refine ⟨_, ?_, ?_, (stepwise_members h).1, rfl, ⟨_, _, hlines, by simp, by decide⟩, hlines ▸ hall.mono (by decide) (by decide)⟩
  · refine List.forall_mem_cons.mpr ⟨(sound_code _ _ _).mpr ⟨by simp only [hfixed], ?_⟩, fun l hl => (h l hl).sound⟩
    simp only [spaced, tight, soundItems_cons, soundItems_nil, hfixed, hname, and_self]
  · exact List.forall_mem_cons.mpr ⟨rfl, fun l hl => (h l hl).fits⟩

end

theorem exists_stated_model {name : String} (hname : (Word.name name).Sound) {columns : List Column}
    (hcolumns : ∀ c ∈ columns, c.Writable) (partialInput : Bool) :
    ∃ ns, Stated (modelLines name (columns.map (Column.inputLine partialInput))) ns := by
  have hmembers : ∀ l ∈ columns.map (Column.inputLine partialInput), Member l :=
    List.forall_mem_map.mpr fun c hc => member_inputLine (hcolumns c hc) partialInput
  unfold modelLines
  cases columns with
  | nil => exact exists_stated_class (List.forall_mem_singleton.mpr member_pass) hname (by simp)
  | cons c columns => exact exists_stated_class hmembers hname (by simp)

end Stub

/-! ## Whole stubs -/

namespace Table

open Stub

/-- The words of the stub of a table can be written. -/
structure Writable (t : Table) : Prop where
  names : t.stubNames.Sound
  doc : (docLine t.name).Sound
  resource : (Word.text t.resourceName).Sound
  columns : ∀ c ∈ t.inputColumns false, c.Writable

theorem mem_inputColumns {t : Table} {c : Column} (h : c ∈ t.inputColumns true) : c ∈ t.inputColumns false := by
  simp only [inputColumns, List.mem_filter, Bool.and_eq_true] at h ⊢
  exact ⟨h.1, h.2.1, rfl⟩

/-- The stub is read as statements, and among them are the handlers. -/
theorem Writable.exists_statedLines {t : Table} (h : t.Writable) :
    ∃ ns, StatedLines t.stubLines ns ∧ ∀ x ∈ t.stubNames.endpoints, ∃ m ∈ ns, IsHandler x.1.verb x.2 m := by
  obtain ⟨d, hdoc⟩ := exists_stated_doc h.doc
  obtain ⟨is, himports⟩ := exists_statedLines_imports t.stubTypes t.stubNeedsField
  obtain ⟨r, hrouter⟩ := exists_stated_router h.resource
  obtain ⟨g, hdatabase⟩ := exists_stated_database
  obtain ⟨c, hcreate⟩ := exists_stated_model h.names.createModel h.columns false
  obtain ⟨u, hupdate⟩ := exists_stated_model h.names.updateModel (fun c hc => h.columns c (mem_inputColumns hc)) true
  obtain ⟨ms, hhandlers, hendpoints⟩ := h.names.exists_handlers t.keyType
  have hhead := (StatedLines.statement hdoc (.blank .finished)).append himports
  have hrest := StatedLines.blank <| .statement hrouter <| .blank <| .blank <| .statement hdatabase <| .blank <| .blank <|
    .statement hcreate <| .blank <| .blank <| .statement hupdate hhandlers
  have hall : StatedLines t.stubLines (d ++ is ++ (r ++ (g ++ (c ++ (u ++ ms))))) := by
    simpa [stubLines, headerLines, Table.modelLines] using hhead.append hrest
  refine ⟨_, hall, fun x hx => ?_⟩
  obtain ⟨m, hm, hhandler⟩ := hendpoints x hx
  exact ⟨m, by simp [hm], hhandler⟩

end Table

end SchemaConcord
