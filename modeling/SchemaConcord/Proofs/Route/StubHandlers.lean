import SchemaConcord.Proofs.Route.StubLines
import SchemaConcord.Proofs.Source.Written

/-!
# Reading handlers

What the grammar makes of the handlers in a stub: each is read as one function below a decorator of the router, with the
verb and the path that it is written with (`exists_readsHandler`). Of their bodies only matters that they are read at all.
-/

namespace SchemaConcord

open Source

namespace Stub

/-! ## Well-formed words -/

/-- The words of the handlers that come from the table and its columns can be written. -/
structure Names.Sound (n : Names) : Prop where
  table : (Word.text n.table).Sound
  base : (Word.text n.base).Sound
  item : (Word.text n.item).Sound
  keyText : (Word.text n.key).Sound
  keyName : (Word.name n.key).Sound
  notFound : (Word.text (n.model ++ " not found")).Sound
  list : (Word.name ("list_" ++ n.plural)).Sound
  get : (Word.name ("get_" ++ n.single)).Sound
  create : (Word.name ("create_" ++ n.single)).Sound
  update : (Word.name ("update_" ++ n.single)).Sound
  delete : (Word.name ("delete_" ++ n.single)).Sound
  createModel : (Word.name ("Create" ++ n.model)).Sound
  updateModel : (Word.name ("Update" ++ n.model)).Sound

/-- The words that are the same in every stub. -/
def fixedWords : List Word :=
  writtenOps.map .op ++
    ["async", "def", "return", "await", "if", "not", "raise", "None", "True", "from", "import", "class", "pass"].map
      .keyword ++
    [0, 1, 10, 201, 204, 404].map .number ++
    ["*", "data", "page", "limit", "total", "Connect get_db to the application's database client"].map .text ++
    ["router", "get", "post", "put", "delete", "page", "limit", "sort", "filter", "db", "Depends", "get_db", "rows",
      "select", "order_by", "start", "len", "filters", "HTTPException", "status_code", "detail", "payload", "model_dump",
      "by_alias", "exclude_unset", "row", "insert", "values", "update", "Response", "dict", "Any", "typing", "uuid",
      "fastapi", "pydantic", "APIRouter", "tags", "BaseModel", "Field", "NotImplementedError", "default", "alias",
      "max_length", "UUID", "bool", "datetime", "date", "time", "str", "int", "float"].map .name

theorem fixedWords_sound : ∀ w ∈ fixedWords, w.Sound := by
  decide +kernel

def SoundItems (items : List Item) : Prop := ∀ i ∈ items, i.2.Sound

theorem soundItems_nil : SoundItems [] ↔ True := by
  simp [SoundItems]

theorem soundItems_cons (gap : Gap) (w : Word) (items : List Item) :
    SoundItems ((gap, w) :: items) ↔ w.Sound ∧ SoundItems items :=
  List.forall_mem_cons

theorem soundItems_append (items more : List Item) : SoundItems (items ++ more) ↔ SoundItems items ∧ SoundItems more :=
  List.forall_mem_append

theorem sound_code (d : Nat) (first : Word) (items : List Item) :
    (Line.code d first items).Sound ↔ first.Sound ∧ SoundItems items := by
  rw [Line.Sound, Line.words, List.forall_mem_cons, List.forall_mem_map]
  rfl

theorem sound_blank : Line.blank.Sound ↔ True := by
  simp [Line.Sound, Line.words]

theorem typeItems_sound (v : ValueType) : SoundItems (typeItems v) := by
  have hfixed := fixedWords_sound
  simp only [fixedWords, writtenOps, List.map_cons, List.map_nil, List.cons_append, List.nil_append,
    List.forall_mem_cons] at hfixed
  cases v <;>
    simp only [typeItems, dictItems, spaced, tight, ValueType.word, soundItems_cons, soundItems_nil, hfixed, and_self]

theorem Names.Sound.handlerLines_sound {n : Names} (hn : n.Sound) (v : ValueType) :
    ∀ l ∈ n.handlerLines (typeItems v), l.Sound := by
  have hfixed := fixedWords_sound
  have htypes := typeItems_sound v
  obtain ⟨_, _, _, _, _, _, _, _, _, _, _, _, _⟩ := hn
  simp only [fixedWords, writtenOps, List.map_cons, List.map_nil, List.cons_append, List.nil_append,
    List.forall_mem_cons] at hfixed
  simp only [handlerLines, listLines, getLines, createLines, updateLines, deleteLines, decoratorLine, headLine,
    statusItems, returnLine, dictItems, databaseItems, listParameters, keyParameters, createParameters, updateParameters,
    awaitLine, callItems, dumpItems, windowLine, pageLine, keyItems, notFoundLine, checkLine, tight, spaced, broken,
    List.forall_mem_append, List.forall_mem_cons, List.not_mem_nil, sound_code, sound_blank, soundItems_cons,
    soundItems_append, soundItems_nil, *, and_self, false_implies, implies_true]

theorem handlerLines_fit (n : Names) (v : ValueType) : ∀ l ∈ n.handlerLines (typeItems v), l.fits = true := by
  rw [← List.all_eq_true]
  cases v <;> rfl

/-! ## Lines of handlers -/

theorem nested_word {depth blocks : Nat} {w : Word} {ts : List Token} (hfresh : Fresh (some w.token))
    (h : ∃ ns, ReadsStatement depth blocks (w.token :: ts) ns) : Nested depth blocks (w.token :: ts) := by
  refine ⟨⟨_, ts, rfl, ?_, hfresh⟩, h⟩
  cases w <;> nofun

def ReadsLine (l : Line) : Prop := Nested 3 0 l.tokens

theorem ReadsLine.of_eq {d : Nat} {w : Word} {items : List Item} {ns : List Node} (hfresh : Fresh (some w.token))
    (h : ∀ d b rest, (Inner.within (d + 3)).statement ((Inner.within (d + 3)).blockWithin b)
      (w.token :: (itemTokens items ++ [.newline]) ++ rest) = some (ns, rest)) : ReadsLine (.code d w items) := by
  refine nested_word hfresh ⟨ns, fun d hd b _ rest _ => ?_⟩
  obtain ⟨d, rfl⟩ : ∃ e, d = e + 3 := ⟨d - 3, by omega⟩
  exact h d b rest

theorem readsLine_window : ReadsLine windowLine := .of_eq ⟨nofun, nofun⟩ fun _ _ _ => rfl

section
-- The names in a stub are read whatever compatible characters stand for theirs.
attribute [local irreducible] spelled
set_option maxRecDepth 2000

theorem readsLine_page : ReadsLine pageLine := .of_eq (by decide) fun _ _ _ => rfl

theorem readsLine_row : ReadsLine (returnLine [spaced (.name "row")]) := .of_eq (by decide) fun _ _ _ => rfl

theorem readsLine_first :
    ReadsLine (returnLine [spaced (.name "rows"), tight (.op "["), tight (.number 0), tight (.op "]")]) :=
  .of_eq (by decide) fun _ _ _ => rfl

theorem readsLine_response : ReadsLine (.code 1 (.keyword "return") [spaced (.name "Response"), tight (.op "("),
    tight (.name "status_code"), tight (.op "="), tight (.number 204), tight (.op ")")]) :=
  .of_eq (by decide) fun _ _ _ => rfl

/-- A line that gives a value to one of these names does not begin a match statement. -/
theorem assigned_ne_match : ∀ x ∈ ["row", "rows", "router", "values"], spelled x ≠ "match" := by
  decide +kernel

theorem readsLine_await {x method : String} {args : List Item} {tss : List (List Token)} {positions options : List Node}
    (hx : spelled x ≠ "match") (h : ReadsArguments 2 tss positions options)
    (htokens : itemTokens args = argumentTokens tss) : ReadsLine (awaitLine x method args) := by
  have hall := ReadsStatement.assignment hx (by simp) (by simp)
    (ReadsPrimary.methodCall h (spelled "db") (spelled method)).await (by decide)
  have hline : (awaitLine x method args).tokens = .name (spelled x) :: .op "=" :: .keyword "await" ::
      (.name (spelled "db") :: .op "." :: .name (spelled method) :: .op "(" :: (argumentTokens tss ++ [.op ")"]) ++
        [.newline]) := by
    simp [awaitLine, Line.tokens, callItems, itemTokens, spaced, tight, Word.token, ← htokens]
  rw [ReadsLine, hline]
  exact nested_word (w := .name x) (fresh_name _) ⟨_, hall⟩

theorem exists_readsDump : ∃ m, ReadsExpression 2 (itemTokens dumpItems) m := by
  have hargs : ReadsArguments 1 _ _ _ := .option (.named (spelled "by_alias") .true) (by simp)
    (.option (.named (spelled "exclude_unset") .true) (by simp) .none)
  have hcall := (ReadsPrimary.methodCall hargs (spelled "payload") (spelled "model_dump")).expression (by simp [Leads])
    (by simp)
  exact ⟨_, hcall⟩

theorem readsLine_values : ReadsLine (.code 1 (.name "values") (spaced (.op "=") :: dumpItems)) := by
  obtain ⟨m, hdump⟩ := exists_readsDump
  have hall := ReadsStatement.assignment (assigned_ne_match "values" (by decide)) (by decide) (by decide) hdump (by decide)
  exact nested_word (w := .name "values") (fresh_name _) ⟨_, hall.mono (by decide) (Nat.le_refl 0)⟩

/-- The type of a value, whether or not the value may be left out. -/
theorem exists_readsInput (v : ValueType) (required : Bool) :
    ∃ m, ReadsExpression 3 (itemTokens (typeItems v ++ if required then [] else orNone)) m := by
  have hstops {ts : List Token} {m : Node} (h : ∀ d rest, ∀ t ∈ stops, (Inner.within (d + 3)).expression
      (ts ++ t :: rest) = some (m, t :: rest)) : ∃ m, ReadsExpression 3 ts m := by
    refine ⟨m, fun d hd => ?_⟩
    obtain ⟨d, rfl⟩ : ∃ e, d = e + 3 := ⟨d - 3, by omega⟩
    exact reads_after fun t ht rest => h d rest t ht
  cases v <;> cases required <;> refine hstops fun d rest => List.forall_mem_cons.mpr ⟨rfl, ?_⟩ <;>
    simp only [List.forall_mem_cons] <;> and_intros <;> first | rfl | nofun

end

section
variable {n : Names} (hn : n.Sound)
include hn

namespace Names.Sound

theorem exists_readsTable : ∃ m, ReadsArgument 2 [.literal false false false n.table.toList] (.positional m) :=
  ⟨_, (ReadsArgument.text hn.table.escapeFree).mono (by decide)⟩

theorem exists_readsKey : ∃ m, ReadsArgument 2 [.name (spelled "filters"), .op "=", .op "\x7b",
    .literal false false false n.key.toList, .op ":", (Word.name n.key).token, .op "\x7d"] (.named m) :=
  ⟨_, .named _ ((ReadsPrimary.textEntry hn.keyText.escapeFree _).expression (by decide) (by decide))⟩

theorem readsLine_list : ReadsLine (awaitLine "rows" "select" [tight (.text n.table), tight (.op ","),
    spaced (.text "*"), tight (.op ","), spaced (.name "order_by"), tight (.op "="), tight (.name "sort")]) := by
  obtain ⟨l, htable⟩ := hn.exists_readsTable
  have hstar : '\\' ∉ ['*'] := by decide
  have hargs : ReadsArguments 2 _ _ _ := .position htable (by simp)
    (.position ((ReadsArgument.text hstar).mono (by decide)) (by simp)
      (.option ((ReadsArgument.named (spelled "order_by") (.name (spelled "sort"))).mono (by decide)) (by simp) .none))
  exact readsLine_await (assigned_ne_match _ (by decide)) hargs rfl

theorem readsLine_get : ReadsLine
    (awaitLine "rows" "select" ([tight (.text n.table), tight (.op ","), spaced (.text "*")] ++ n.keyItems)) := by
  obtain ⟨k, hkey⟩ := hn.exists_readsKey
  obtain ⟨l, htable⟩ := hn.exists_readsTable
  have hstar : '\\' ∉ ['*'] := by decide
  have hargs : ReadsArguments 2 _ _ _ := .position htable (by simp)
    (.position ((ReadsArgument.text hstar).mono (by decide)) (by simp)
      (.option hkey (by simp) .none))
  exact readsLine_await (assigned_ne_match _ (by decide)) hargs rfl

theorem readsLine_insert :
    ReadsLine (awaitLine "row" "insert" ([tight (.text n.table), tight (.op ",")] ++ dumpItems)) := by
  obtain ⟨k, hdump⟩ := exists_readsDump
  obtain ⟨l, htable⟩ := hn.exists_readsTable
  have hargs : ReadsArguments 2 _ _ _ := .position htable (by simp) (.position (.member hdump) (by simp) .none)
  exact readsLine_await (assigned_ne_match _ (by decide)) hargs rfl

theorem readsLine_update : ReadsLine
    (awaitLine "row" "update" ([tight (.text n.table), tight (.op ","), spaced (.name "values")] ++ n.keyItems)) := by
  obtain ⟨k, hkey⟩ := hn.exists_readsKey
  obtain ⟨l, htable⟩ := hn.exists_readsTable
  have hargs : ReadsArguments 2 _ _ _ := .position htable (by simp)
    (.position ((ReadsArgument.name (spelled "values")).mono (by decide)) (by simp) (.option hkey (by simp) .none))
  exact readsLine_await (assigned_ne_match _ (by decide)) hargs rfl

theorem readsLine_delete :
    ReadsLine (.code 1 (.keyword "await") (callItems "delete" (tight (.text n.table) :: n.keyItems))) := by
  obtain ⟨k, hkey⟩ := hn.exists_readsKey
  obtain ⟨l, htable⟩ := hn.exists_readsTable
  have hargs : ReadsArguments 2 _ _ _ := .position htable (by simp) (.option hkey (by simp) .none)
  have hcall := (ReadsPrimary.methodCall hargs (spelled "db") (spelled "delete")).await
  have hall := ReadsStatement.expression (fun _ _ _ => rfl) (fun _ _ => rfl) (by simp) hcall
  exact nested_word (by decide) ⟨_, hall⟩

/-- What a handler does where a row is missing. -/
theorem nested_missing {ts : List Token} {m : Node} (htest : ReadsExpression 4 (.keyword "not" :: ts) m) :
    Nested 4 1 (.keyword "if" :: .keyword "not" :: (ts ++ .op ":" :: .newline :: .indent ::
      (n.notFoundLine.tokens ++ [.dedent]))) := by
  have hargs : ReadsArguments 1 _ _ _ := .option (.named (spelled "status_code") (.number 404)) (by simp)
    (.option (.named (spelled "detail") (.text hn.notFound.escapeFree)) (by simp) .none)
  have hcall := (ReadsPrimary.call hargs (spelled "HTTPException")).expression (by simp [Leads]) (by simp)
  have hraise : Nested 2 0 n.notFoundLine.tokens := nested_word (by decide) ⟨_, .raise _ hcall⟩
  obtain ⟨ns, hblock⟩ := exists_readsBlock (by simp)
    (List.forall_mem_singleton.mpr (hraise.mono (by decide : _ ≤ 4) (Nat.le_refl 0)))
  rw [List.flatten_singleton] at hblock
  exact nested_word (w := .keyword "if") (by decide) ⟨_, .condition htest hblock⟩

theorem nested_check : Nested 4 1 (n.checkLine.tokens ++ .indent :: (n.notFoundLine.tokens ++ [.dedent])) := by
  obtain ⟨k, hkey⟩ := hn.exists_readsKey
  obtain ⟨l, htable⟩ := hn.exists_readsTable
  have hargs : ReadsArguments 2 _ _ _ := .position htable (by simp)
    (.position ((ReadsArgument.text hn.keyText.escapeFree).mono (by decide)) (by simp) (.option hkey (by simp) .none))
  have hall := hn.nested_missing (ReadsPrimary.methodCall hargs (spelled "db") (spelled "select")).notAwait
  exact hall

theorem nested_empty : Nested 4 1 (Line.tokens (.code 1 (.keyword "if") [spaced (.keyword "not"), spaced (.name "rows"),
    tight (.op ":")]) ++ .indent :: (n.notFoundLine.tokens ++ [.dedent])) := by
  have hrows := (ReadsPrimary.name (spelled "rows")).not (by simp [Leads]) (by simp)
  have hall := hn.nested_missing (hrows.mono (by decide))
  exact hall

end Names.Sound

end

/-! ## Handlers -/

/-- The node of a handler: its name, its verb and path, and whatever else it has. -/
def IsHandler (verb path : String) (m : Node) : Prop :=
  ∃ name parameters body options returns, m = .function name parameters body
    [.call (.attribute (.name (spelled "router")) (spelled verb)) [.string path] options] returns

/-- The methods and paths of the handlers, in their order. -/
def Names.endpoints (n : Names) : List (HttpMethod × String) :=
  [(.get, n.base), (.get, n.item), (.post, n.base), (.put, n.item), (.delete, n.item)]

/-- Arguments after the path, each with its comma. -/
def ReadsRest (items : List Item) : Prop :=
  ∃ tss options, ReadsArguments 2 tss [] options ∧ itemTokens items = (tss.map (.op "," :: ·)).flatten

theorem readsRest_nil : ReadsRest [] := ⟨[], [], .none, rfl⟩

theorem readsRest_status (code : Nat) : ReadsRest (statusItems code) :=
  ⟨_, _, .option ((ReadsArgument.named (spelled "status_code") (.number code)).mono (by decide)) (by simp) .none, rfl⟩

def ReadsParameters (items : List Item) : Prop := ∃ m, ∀ d rest,
  (Inner.within (d + 5)).parameters true ")" (itemTokens items ++ rest) = some (m, rest)

theorem readsParameters_key (n : Names) (v : ValueType) : ReadsParameters (n.keyParameters (typeItems v)) := by
  cases v <;> exact ⟨_, fun _ _ => rfl⟩

theorem readsParameters_update (n : Names) (v : ValueType) : ReadsParameters (n.updateParameters (typeItems v)) := by
  cases v <;> exact ⟨_, fun _ _ => rfl⟩

/-- A function below a decorator of the router is read as a handler when its parts are read. -/
theorem exists_readsHandler {verb path name : String} (hpath : (Word.text path).Sound)
    {status parameters returns : List Item} {lines : List Line} (hstatus : ReadsRest status)
    (hparameters : ReadsParameters parameters) (hreturns : ∃ m, ReadsExpression 3 (itemTokens returns) m)
    (hbody : ∃ ns, ReadsBlock 5 2 (.newline :: lineTokens 0 lines) ns) : ∃ m, IsHandler verb path m ∧ ReadsStatement 5 2
      (lineTokens 0 (decoratorLine verb path status :: headLine name parameters returns :: lines)) [m] := by
  obtain ⟨tss, options, hstatus, htokens⟩ := hstatus
  obtain ⟨pn, hparameters⟩ := hparameters
  obtain ⟨rn, hreturns⟩ := hreturns
  obtain ⟨ns, hbody⟩ := hbody
  have hargs : ReadsArguments 2 _ _ _ :=
    .position ((ReadsArgument.text hpath.escapeFree).mono (by decide)) (by simp) hstatus
  have hdecorator := ((ReadsPrimary.methodCall hargs (spelled "router") (spelled verb)).expression (by simp [Leads])
    (by simp)).mono (by decide : _ ≤ 5)
  have hinputs : ∀ d, 5 ≤ d →
      Reads (fun _ => True) ((Inner.within d).parameters true ")") (itemTokens parameters) pn := by
    intro d hd rest _
    obtain ⟨d, rfl⟩ : ∃ e, d = e + 5 := ⟨d - 5, by omega⟩
    exact hparameters d rest
  have hall := ReadsStatement.decorated (spelled name) hinputs (hreturns.mono (by decide)) hbody _ _ hdecorator
  have hlines : lineTokens 0 (decoratorLine verb path status :: headLine name parameters returns :: lines) =
      .op "@" :: .name (spelled "router") :: .op "." :: .name (spelled verb) ::
        (.op "(" :: (argumentTokens ([.literal false false false path.toList] :: tss) ++ [.op ")"]) ++ .newline ::
          .keyword "async" :: .keyword "def" :: .name (spelled name) :: .op "(" :: (itemTokens parameters ++ .op "->" ::
            (itemTokens returns ++ .op ":" :: .newline :: lineTokens 0 lines))) := by
    unfold itemTokens at htokens ⊢
    simp [lineTokens, depthMarks, decoratorLine, headLine, itemTokens, argumentTokens, ← htokens, spaced, tight,
      Word.token]
  rw [String.ofList_toList] at hall
  rw [hlines]
  exact ⟨_, ⟨_, _, _, _, _, rfl⟩, hall⟩

theorem ReadsLine.nested {l : Line} (h : ReadsLine l) : Nested 5 1 l.tokens := h.mono (by decide) (by decide)

namespace Names.Sound

variable {n : Names} (hn : n.Sound) (v : ValueType)
include hn

theorem reads_list : ∃ m, IsHandler "get" n.base m ∧ ReadsStatement 5 2 (lineTokens 0 n.listLines) [m] := by
  have hbody := exists_readsBlock (by simp) (List.forall_mem_cons.mpr ⟨hn.readsLine_list.nested,
    List.forall_mem_cons.mpr ⟨readsLine_window.nested, List.forall_mem_singleton.mpr readsLine_page.nested⟩⟩)
  exact exists_readsHandler hn.base readsRest_nil ⟨_, fun _ _ => rfl⟩ (exists_readsInput .json true) hbody

theorem reads_get : ∃ m, IsHandler "get" n.item m ∧ ReadsStatement 5 2 (lineTokens 0 (n.getLines (typeItems v))) [m] := by
  have hempty := hn.nested_empty.mono (by decide : _ ≤ 5) (Nat.le_refl 1)
  have hbody := exists_readsBlock (by simp) (List.forall_mem_cons.mpr ⟨hn.readsLine_get.nested,
    List.forall_mem_cons.mpr ⟨hempty, List.forall_mem_singleton.mpr readsLine_first.nested⟩⟩)
  exact exists_readsHandler hn.item readsRest_nil (readsParameters_key n v) (exists_readsInput .json true) hbody

theorem reads_create : ∃ m, IsHandler "post" n.base m ∧ ReadsStatement 5 2 (lineTokens 0 n.createLines) [m] := by
  have hbody := exists_readsBlock (by simp) (List.forall_mem_cons.mpr ⟨hn.readsLine_insert.nested,
    List.forall_mem_singleton.mpr readsLine_row.nested⟩)
  exact exists_readsHandler hn.base (readsRest_status 201) ⟨_, fun _ _ => rfl⟩ (exists_readsInput .json true) hbody

theorem reads_update :
    ∃ m, IsHandler "put" n.item m ∧ ReadsStatement 5 2 (lineTokens 0 (n.updateLines (typeItems v))) [m] := by
  have hcheck := hn.nested_check.mono (by decide : _ ≤ 5) (Nat.le_refl 1)
  have hbody := exists_readsBlock (by simp) (List.forall_mem_cons.mpr ⟨hcheck, List.forall_mem_cons.mpr
    ⟨readsLine_values.nested, List.forall_mem_cons.mpr ⟨hn.readsLine_update.nested,
      List.forall_mem_singleton.mpr readsLine_row.nested⟩⟩⟩)
  exact exists_readsHandler hn.item readsRest_nil (readsParameters_update n v) (exists_readsInput .json true) hbody

theorem reads_delete :
    ∃ m, IsHandler "delete" n.item m ∧ ReadsStatement 5 2 (lineTokens 0 (n.deleteLines (typeItems v))) [m] := by
  have hcheck := hn.nested_check.mono (by decide : _ ≤ 5) (Nat.le_refl 1)
  have hbody := exists_readsBlock (by simp) (List.forall_mem_cons.mpr ⟨hcheck, List.forall_mem_cons.mpr
    ⟨hn.readsLine_delete.nested, List.forall_mem_singleton.mpr readsLine_response.nested⟩⟩)
  exact exists_readsHandler hn.item (readsRest_status 204) (readsParameters_key n v)
    ⟨_, (ReadsExpression.name (spelled "Response")).mono (by decide)⟩ hbody

theorem stated {lines : List Line} {m : Node} (hmem : ∀ l ∈ lines, l ∈ n.handlerLines (typeItems v))
    (hsteps : stepwise 0 lines = true) (houter : outermost lines = true)
    (hbegins : ∃ us, lineTokens 0 lines = .op "@" :: us) (hreads : ReadsStatement 5 2 (lineTokens 0 lines) [m]) :
    Stated lines [m] where
  sound l hl := hn.handlerLines_sound v l (hmem l hl)
  fits l hl := handlerLines_fit n v l (hmem l hl)
  steps := hsteps
  outermost := houter
  begins := by
    obtain ⟨us, hus⟩ := hbegins
    exact ⟨_, us, hus, by decide, by decide⟩
  reads := hreads.mono (by decide) (by decide)

/-- The handlers are read as one function each. -/
theorem exists_handlers :
    ∃ ms, StatedLines (n.handlerLines (typeItems v)) ms ∧ ∀ x ∈ n.endpoints, ∃ m ∈ ms, IsHandler x.1.verb x.2 m := by
  obtain ⟨list, hlist, reads_list⟩ := hn.reads_list
  obtain ⟨get, hget, reads_get⟩ := hn.reads_get v
  obtain ⟨create, hcreate, reads_create⟩ := hn.reads_create
  obtain ⟨update, hupdate, reads_update⟩ := hn.reads_update v
  obtain ⟨delete, hdelete, reads_delete⟩ := hn.reads_delete v
  have stated_list := hn.stated v (by simp +contextual [handlerLines]) rfl rfl ⟨_, rfl⟩ reads_list
  have stated_get := hn.stated v (by simp +contextual [handlerLines]) rfl rfl ⟨_, rfl⟩ reads_get
  have stated_create := hn.stated v (by simp +contextual [handlerLines]) rfl rfl ⟨_, rfl⟩ reads_create
  have stated_update := hn.stated v (by simp +contextual [handlerLines]) rfl rfl ⟨_, rfl⟩ reads_update
  have stated_delete := hn.stated v (by simp +contextual [handlerLines]) rfl rfl ⟨_, rfl⟩ reads_delete
  refine ⟨[list, get, create, update, delete], ?_, ?_⟩
  · simp only [handlerLines, List.append_assoc, List.cons_append, List.nil_append]
    exact .blank <| .blank <| .statement stated_list <| .blank <| .blank <| .statement stated_get <| .blank <| .blank <|
      .statement stated_create <| .blank <| .blank <| .statement stated_update <| .blank <| .blank <| .one stated_delete
  · simp [endpoints, HttpMethod.verb, hlist, hget, hcreate, hupdate, hdelete]

end Names.Sound

end Stub

end SchemaConcord
