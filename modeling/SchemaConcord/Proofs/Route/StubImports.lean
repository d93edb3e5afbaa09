import SchemaConcord.Proofs.Route.StubLines

/-!
# The imports of a stub

A stub imports a name exactly when it uses it (`Table.stub_imports_iff_used`). What it imports is computed from the
columns of the first model and from the key, what it uses is read off the lines of both models and of the handlers.
-/

namespace SchemaConcord

open Text Source

/-! ## Imports, calls and annotations of a line -/

def Source.Word.name? : Word → Option String
  | .name x => some x
  | _ => none

namespace Source.Line

/-- The names that a line imports, each with the module that it is imported from. -/
def imported : Line → List (String × String)
  | .code _ (.keyword "from") ((_, .name source) :: (_, .keyword "import") :: items) =>
    (items.filterMap (·.2.name?)).map (source, ·)
  | _ => []

def Calls (x : String) (l : Line) : Prop := [.name x, .op "("] <:+: l.words

/-- The type at the start of an annotation: a name, with what stands in brackets behind it. -/
def typeAt : List Word → List Word
  | .name x :: .op "[" :: rest => .name x :: .op "[" :: (rest.takeWhile (· ≠ .op "]") ++ [.op "]"])
  | .name x :: _ => [.name x]
  | _ => []

/-- The field that a line declares, with the type part of its annotation. -/
def field? : Line → Option (String × List Word)
  | .code _ (.name x) ((_, .op ":") :: items) => some (x, typeAt (items.map (·.2)))
  | _ => none

/-- The first parameter of the function that a line begins, with the type part of its annotation. -/
def parameter? : Line → Option (String × List Word)
  | .code _ (.keyword "async")
      ((_, .keyword "def") :: (_, .name _) :: (_, .op "(") :: (_, .name x) :: (_, .op ":") :: items) =>
    some (x, typeAt (items.map (·.2)))
  | _ => none

end Source.Line

/-- Whether a type is the type part of the annotation of a field or of the parameter for the key. -/
def Table.Annotates (t : Table) (x : String) : Prop :=
  (∃ f ∈ t.modelLines.filterMap Line.field?, f.2 = [.name x]) ∨
    (t.keyColumn, [.name x]) ∈ t.stubLines.filterMap Line.parameter?

/-! ## Types -/

namespace Stub

def typeWords (v : ValueType) : List Word := (typeItems v).map (·.2)

/-- The types that have to be imported, each with its module. -/
def importedTypes : List (String × ValueType) :=
  [("datetime", .date), ("datetime", .datetime), ("datetime", .time), ("uuid", .uuid)]

theorem typeAt_typeWords (v : ValueType) {rest : List Word} (h : rest.head? ≠ some (.op "[")) :
    Line.typeAt (typeWords v ++ rest) = typeWords v := by
  have hname (x : String) : Line.typeAt (.name x :: rest) = [.name x] := by
    rw [Line.typeAt]
    intro more hrest
    exact h (by rw [hrest]; rfl)
  cases v with
  | json => rfl
  | _ => exact hname _

theorem typeWords_eq_name_iff {v w : ValueType} {source : String} (hw : (source, w) ∈ importedTypes) :
    typeWords v = [.name w.word] ↔ v = w := by
  have hall : ∀ p ∈ importedTypes, ∀ v ∈ [ValueType.uuid, .bool, .json, .datetime, .date, .time, .str, .int, .float],
      typeWords v = [.name p.2.word] ↔ v = p.2 := by
    decide
  exact hall _ hw v (by cases v <;> decide)

end Stub

/-! ## Fields -/

namespace Column

open Stub

variable (partialInput : Bool) (c : Column)

theorem optionWords_of_plain (h : c.needsField = false) :
    c.optionWords partialInput = if c.isRequiredInput partialInput then [] else [("default", .keyword "None")] := by
  obtain ⟨hlimit, halias⟩ := Bool.or_eq_false_iff.mp h
  rw [Option.isSome_eq_false_iff, Option.isNone_iff_eq_none] at hlimit
  rw [bne_eq_false_iff_eq] at halias
  rw [optionWords, hlimit, if_pos halias, List.append_nil, List.append_nil]

theorem exists_optionWords_of_needsField (h : c.needsField = true) :
    ∃ o ∈ c.optionWords partialInput, o.1 ≠ "default" := by
  rcases (Bool.or_eq_true _ _).mp h with hlimit | halias
  · obtain ⟨n, hn⟩ := Option.isSome_iff_exists.mp hlimit
    exact ⟨("max_length", .number n), by simp [optionWords, hn], by simp⟩
  · have hne : fieldAttribute c.name ≠ c.name := by simpa using halias
    exact ⟨("alias", .text c.name), by simp [optionWords, hne], by simp⟩

theorem valueItems_of_plain (h : c.needsField = false) :
    c.valueItems partialInput =
      if c.isRequiredInput partialInput then [] else [spaced (.op "="), spaced (.keyword "None")] := by
  rw [valueItems, optionWords_of_plain partialInput c h]
  cases c.isRequiredInput partialInput <;> rfl

theorem valueItems_of_needsField (h : c.needsField = true) :
    c.valueItems partialInput = [spaced (.op "="), spaced (.name "Field"), tight (.op "(")] ++
      optionItems (c.optionWords partialInput) ++ [tight (.op ")")] := by
  obtain ⟨o, ho, hname⟩ := exists_optionWords_of_needsField partialInput c h
  have hne : c.optionWords partialInput ≠ [("default", .keyword "None")] := by
    intro hone
    rw [hone, List.mem_singleton] at ho
    exact hname (congrArg Prod.fst ho)
  obtain ⟨first, more, hwords⟩ := List.exists_cons_of_ne_nil (List.ne_nil_of_mem ho)
  rw [hwords] at hne
  rw [valueItems, hwords]
  exact if_neg hne

/-- What stands behind the type of a field. -/
def afterType : List Item := (if c.isRequiredInput partialInput then [] else orNone) ++ c.valueItems partialInput

theorem words_inputLine : (c.inputLine partialInput).words =
    .name (fieldAttribute c.name) :: .op ":" :: (typeWords c.valueType ++ (c.afterType partialInput).map (·.2)) := by
  simp [inputLine, inputItems, afterType, Line.words, typeWords, tight]

theorem field?_inputLine :
    (c.inputLine partialInput).field? = some (fieldAttribute c.name, typeWords c.valueType) := by
  have hafter : ((c.afterType partialInput).map (·.2)).head? ≠ some (.op "[") := by
    unfold afterType
    cases h : c.needsField with
    | true => rw [valueItems_of_needsField _ _ h]; split <;> simp [orNone, spaced]
    | false => rw [valueItems_of_plain _ _ h]; split <;> simp [orNone, spaced]
  rw [← typeAt_typeWords c.valueType hafter]
  simp [inputLine, tight, Line.field?, inputItems, afterType, typeWords]

/-- A field calls `Field` when it has more options than a default. -/
theorem calls_inputLine_iff : (c.inputLine partialInput).Calls "Field" ↔ c.needsField = true := by
  rw [Line.Calls, words_inputLine, afterType]
  cases h : c.needsField with
  | true =>
    rw [valueItems_of_needsField _ _ h]
    simp only [List.map_append, ← List.append_assoc, ← List.cons_append]
    have hcall : [Word.name "Field", .op "("] <:+:
        [spaced (.op "="), spaced (.name "Field"), tight (.op "(")].map (·.2) :=
      ⟨[.op "="], [], rfl⟩
    refine iff_of_true (hcall.trans ?_) trivial
    rw [List.append_assoc]
    exact ⟨_, _, rfl⟩
  | false =>
    -- A call has an opening bracket, and a plain field has none.
    have htype : Word.op "(" ∉ typeWords c.valueType := by cases c.valueType <;> decide
    refine iff_of_false (fun hcall => ?_) Bool.false_ne_true
    have hbracket := hcall.subset (List.mem_cons_of_mem _ (List.mem_singleton_self (Word.op "(")))
    rw [valueItems_of_plain _ _ h] at hbracket
    split at hbracket <;> simp [orNone, spaced, htype] at hbracket

end Column

/-! ## Models -/

namespace Stub

def classLine (name : String) : Line :=
  .code 0 (.keyword "class") [spaced (.name name), tight (.op "("), tight (.name "BaseModel"), tight (.op ")"),
    tight (.op ":")]

theorem modelLines_eq (name : String) (fields : List Line) :
    modelLines name fields = classLine name :: if fields.isEmpty then [.code 1 (.keyword "pass") []] else fields := rfl

section
variable (name : String) (partialInput : Bool) (columns : List Column)

theorem filterMap_field?_modelLines :
    (modelLines name (columns.map (Column.inputLine partialInput))).filterMap Line.field? =
      columns.map fun c => (fieldAttribute c.name, typeWords c.valueType) := by
  rw [modelLines_eq, List.filterMap_cons_none rfl]
  cases columns with
  | nil => rfl
  | cons c columns =>
    rw [if_neg (by simp), List.filterMap_map, ← List.filterMap_eq_map]
    exact List.filterMap_congr fun c _ => Column.field?_inputLine partialInput c

theorem exists_calls_modelLines_iff (hname : name ≠ "Field") :
    (∃ l ∈ modelLines name (columns.map (Column.inputLine partialInput)), l.Calls "Field") ↔
      columns.any Column.needsField = true := by
  have hclass : ¬ (classLine name).Calls "Field" := by
    simp [classLine, Line.Calls, Line.words, spaced, tight, List.infix_cons_iff, hname.symm]
  have hpass : ¬ Line.Calls "Field" (.code 1 (.keyword "pass") []) := by
    simp [Line.Calls, Line.words, List.infix_cons_iff]
  rw [modelLines_eq, List.exists_mem_cons_iff, or_iff_right hclass]
  cases columns with
  | nil => simpa using hpass
  | cons c columns =>
    rw [if_neg (by simp)]
    simp only [List.mem_map, exists_exists_and_eq_and, Column.calls_inputLine_iff, List.any_eq_true]

end

/-! ## Imports and handlers -/

theorem flatMap_imported_fromLine (source : String) (names : List String) :
    (fromLine source names).flatMap Line.imported = names.map (source, ·) := by
  cases names with
  | nil => rfl
  | cons x more =>
    have hmore : (more.flatMap fun y => [tight (.op ","), spaced (.name y)]).filterMap (·.2.name?) = more := by
      rw [List.filterMap_flatMap]
      exact List.flatMap_singleton' more
    rw [fromLine, List.flatMap_singleton]
    exact congrArg (fun names => (x :: names).map (source, ·)) hmore

theorem mem_timeWords_iff {types : List ValueType} {x : String} : x ∈ timeWords types ↔
    .date ∈ types ∧ x = "date" ∨ .datetime ∈ types ∧ x = "datetime" ∨ .time ∈ types ∧ x = "time" := by
  simp [timeWords, ValueType.word, or_and_right, exists_or, and_assoc, eq_comm (b := x)]

theorem filterMap_parameter?_fromLine (source : String) (names : List String) :
    (fromLine source names).filterMap Line.parameter? = [] := by
  cases names <;> rfl

theorem parameter?_headLine (name x : String) (gap : Gap) (v : ValueType) (rest returns : List Item) :
    (headLine name ((gap, .name x) :: tight (.op ":") :: (typeItems v ++ tight (.op ",") :: rest)) returns).parameter? =
      some (x, typeWords v) := by
  have htype (after : List Item) : Line.typeAt (typeWords v ++ .op "," :: after.map (·.2)) = typeWords v :=
    typeAt_typeWords v (by simp)
  rw [← htype (rest ++ spaced (.op "->") :: (returns ++ [tight (.op ":")]))]
  simp [headLine, Line.parameter?, spaced, tight, typeWords]

/-- A handler has a decorator, its first line and a body. -/
theorem filterMap_handler {decorator head : Line} {body : List Line} {p : String × List Word}
    (hdecorator : decorator.parameter? = none) (hhead : head.parameter? = some p)
    (hbody : body.filterMap Line.parameter? = []) : (decorator :: head :: body).filterMap Line.parameter? = [p] := by
  rw [List.filterMap_cons_none hdecorator, List.filterMap_cons_some hhead, hbody]

/-- The parameters that the handlers begin with. -/
theorem filterMap_parameter?_handlerLines (n : Names) (v : ValueType) :
    (n.handlerLines (typeItems v)).filterMap Line.parameter? =
      [("page", [.name "int"]), (n.key, typeWords v), ("payload", [.name ("Create" ++ n.model)]), (n.key, typeWords v),
        (n.key, typeWords v)] := by
  have hkey (name : String) (returns : List Item) :
      (headLine name (n.keyParameters (typeItems v)) returns).parameter? = some (n.key, typeWords v) := by
    simpa [Names.keyParameters, tight] using parameter?_headLine name n.key .none v _ returns
  have hupdate (name : String) (returns : List Item) :
      (headLine name (n.updateParameters (typeItems v)) returns).parameter? = some (n.key, typeWords v) := by
    simpa [Names.updateParameters, broken] using parameter?_headLine name n.key (.break 4) v _ returns
  have hlist : n.listLines.filterMap Line.parameter? = [("page", [.name "int"])] := filterMap_handler rfl rfl rfl
  have hcreate : n.createLines.filterMap Line.parameter? = [("payload", [.name ("Create" ++ n.model)])] :=
    filterMap_handler rfl rfl rfl
  have hget : (n.getLines (typeItems v)).filterMap Line.parameter? = [(n.key, typeWords v)] :=
    filterMap_handler rfl (hkey _ _) rfl
  have hput : (n.updateLines (typeItems v)).filterMap Line.parameter? = [(n.key, typeWords v)] :=
    filterMap_handler rfl (hupdate _ _) rfl
  have hdelete : (n.deleteLines (typeItems v)).filterMap Line.parameter? = [(n.key, typeWords v)] :=
    filterMap_handler rfl (hkey _ _) rfl
  simp only [Names.handlerLines, List.filterMap_append, hlist, hget, hcreate, hput, hdelete]
  rfl

theorem flatMap_imported_handlerLines (n : Names) (kind : List Item) :
    (n.handlerLines kind).flatMap Line.imported = [] := rfl

theorem flatMap_imported_importLines (types : List ValueType) (needsField : Bool) :
    (importLines types needsField).flatMap Line.imported =
      (timeWords types).map ("datetime", ·) ++ [("typing", "Any")] ++
      (if types.contains .uuid then [("uuid", "UUID")] else []) ++
      ["APIRouter", "Depends", "HTTPException", "Response"].map ("fastapi", ·) ++
      ("pydantic", "BaseModel") :: if needsField then [("pydantic", "Field")] else [] := by
  have huuid : (if types.contains .uuid then ["UUID"] else []).map ("uuid", ·) =
      if types.contains .uuid then [("uuid", "UUID")] else [] := by
    split <;> rfl
  have hfield : ("BaseModel" :: if needsField then ["Field"] else []).map ("pydantic", ·) =
      ("pydantic", "BaseModel") :: if needsField then [("pydantic", "Field")] else [] := by
    split <;> rfl
  rw [← huuid, ← hfield]
  simp only [importLines, List.flatMap_append, flatMap_imported_fromLine]
  simp [Line.imported]

end Stub

/-! ## The whole stub -/

namespace Table

open Stub

variable (t : Table)

/-- A line of the models begins a model, stands for a missing field or is the field of a column. -/
theorem forall_modelLines {P : Line → Prop} (hblank : P .blank) (hclass : ∀ name, P (classLine name))
    (hpass : P (.code 1 (.keyword "pass") [])) (hfield : ∀ partialInput c, P (Column.inputLine partialInput c)) :
    ∀ l ∈ t.modelLines, P l := by
  have hmodel (name : String) (partialInput : Bool) (columns : List Column) :
      ∀ l ∈ Stub.modelLines name (columns.map (Column.inputLine partialInput)), P l := by
    rw [modelLines_eq]
    refine List.forall_mem_cons.mpr ⟨hclass name, ?_⟩
    split
    · exact List.forall_mem_singleton.mpr hpass
    · exact List.forall_mem_map.mpr fun c _ => hfield partialInput c
  exact List.forall_mem_append.mpr ⟨List.forall_mem_append.mpr ⟨hmodel _ _ _, by simpa using hblank⟩, hmodel _ _ _⟩

theorem flatMap_imported_stubLines :
    t.stubLines.flatMap Line.imported = (importLines t.stubTypes t.stubNeedsField).flatMap Line.imported := by
  have hmodels : t.modelLines.flatMap Line.imported = [] :=
    List.flatMap_eq_nil_iff.mpr (t.forall_modelLines rfl (fun _ => rfl) rfl fun _ _ => rfl)
  rw [stubLines, headerLines]
  simp only [List.flatMap_append, hmodels, flatMap_imported_handlerLines]
  simp [docLine, routerLine, databaseLines, Line.imported]

theorem filterMap_parameter?_stubLines : t.stubLines.filterMap Line.parameter? =
    [("page", [.name "int"]), (t.keyColumn, typeWords t.keyType), ("payload", [.name ("Create" ++ t.stubNames.model)]),
      (t.keyColumn, typeWords t.keyType), (t.keyColumn, typeWords t.keyType)] := by
  have hmodels : t.modelLines.filterMap Line.parameter? = [] :=
    List.filterMap_eq_nil_iff.mpr (t.forall_modelLines rfl (fun _ => rfl) rfl fun _ _ => rfl)
  rw [stubLines, headerLines, importLines]
  simp only [List.filterMap_append, hmodels, filterMap_parameter?_handlerLines, filterMap_parameter?_fromLine]
  rfl

theorem mem_inputColumns_of_partial {c : Column} (h : c ∈ t.inputColumns true) : c ∈ t.inputColumns false := by
  have hkept := List.mem_filter.mp h
  refine List.mem_filter.mpr ⟨hkept.1, ?_⟩
  have hinput := (Bool.and_eq_true _ _).mp hkept.2
  simpa using hinput.1

theorem filterMap_field?_modelLines : t.modelLines.filterMap Line.field? =
    (t.inputColumns false ++ t.inputColumns true).map fun c => (fieldAttribute c.name, typeWords c.valueType) := by
  rw [modelLines, List.filterMap_append, List.filterMap_append, Stub.filterMap_field?_modelLines,
    Stub.filterMap_field?_modelLines, List.map_append]
  simp [Line.field?]

theorem annotates_iff {v : ValueType} {source : String} (hv : (source, v) ∈ importedTypes) :
    t.Annotates v.word ↔ v ∈ t.stubTypes := by
  have hint : v.word ≠ "int" := (by decide : ∀ p ∈ importedTypes, p.2.word ≠ "int") _ hv
  have hcreate : v.word ≠ "Create" ++ t.stubNames.model := by
    intro h
    have hfirst : v.word.toList.head? = some 'C' := by
      rw [h, String.toList_append]
      rfl
    exact (by decide : ∀ p ∈ importedTypes, p.2.word.toList.head? ≠ some 'C') _ hv hfirst
  have hfields : (∃ f ∈ t.modelLines.filterMap Line.field?, f.2 = [.name v.word]) ↔
      ∃ c ∈ t.inputColumns false, c.valueType = v := by
    simp only [filterMap_field?_modelLines, List.mem_map, exists_exists_and_eq_and, typeWords_eq_name_iff hv,
      List.mem_append, or_and_right, exists_or]
    exact or_iff_left_of_imp fun ⟨c, hc, htype⟩ => ⟨c, t.mem_inputColumns_of_partial hc, htype⟩
  have hkey : (t.keyColumn, [.name v.word]) ∈ t.stubLines.filterMap Line.parameter? ↔ t.keyType = v := by
    rw [filterMap_parameter?_stubLines, ← typeWords_eq_name_iff hv]
    simp [hint, hcreate, eq_comm (a := typeWords t.keyType)]
  rw [Annotates, hfields, hkey, stubTypes, List.mem_append, List.mem_map, List.mem_singleton, eq_comm (a := v)]

theorem exists_calls_iff : (∃ l ∈ t.modelLines, l.Calls "Field") ↔ t.stubNeedsField = true := by
  have hname : ∀ kind ∈ ["Create", "Update"], kind ++ t.stubNames.model ≠ "Field" := by
    intro kind hkind h
    have hfirst := congrArg (·.toList.head?) h
    rcases List.mem_pair.mp hkind with rfl | rfl <;> simp at hfirst
  have hblank : ¬ Line.blank.Calls "Field" := by simp [Line.Calls, Line.words]
  rw [modelLines, stubNeedsField, List.any_append, Bool.or_eq_true,
    ← Stub.exists_calls_modelLines_iff _ false _ (hname "Create" (by decide)),
    ← Stub.exists_calls_modelLines_iff _ true _ (hname "Update" (by decide))]
  simp [or_and_right, exists_or, hblank]

theorem mem_imported_iff {v : ValueType} {source : String} (hv : (source, v) ∈ importedTypes) (module : String) :
    (module, v.word) ∈ t.stubLines.flatMap Line.imported ↔ module = source ∧ v ∈ t.stubTypes := by
  rw [flatMap_imported_stubLines, flatMap_imported_importLines]
  simp only [importedTypes, List.mem_cons, Prod.mk.injEq, List.not_mem_nil, or_false] at hv
  rcases hv with ⟨rfl, rfl⟩ | ⟨rfl, rfl⟩ | ⟨rfl, rfl⟩ | ⟨rfl, rfl⟩ <;>
    simp [mem_timeWords_iff, ValueType.word, and_comm, eq_comm (a := module)]

theorem mem_imported_field_iff (module : String) :
    (module, "Field") ∈ t.stubLines.flatMap Line.imported ↔ module = "pydantic" ∧ t.stubNeedsField = true := by
  rw [flatMap_imported_stubLines, flatMap_imported_importLines]
  cases t.stubNeedsField <;> simp [mem_timeWords_iff]

/-- A stub imports `Field` exactly when a line of its models calls it, and the name of a type exactly when the type is
the type part of the annotation of a field or of the parameter for the key. -/
theorem stub_imports_iff_used :
    t.routeStub.toList = lineChars t.stubLines ∧ t.stubModels.toList = lineChars t.modelLines ∧
      (∀ module, (module, "Field") ∈ t.stubLines.flatMap Line.imported ↔
        module = "pydantic" ∧ ∃ l ∈ t.modelLines, l.Calls "Field") ∧
      ∀ p ∈ [("datetime", "date"), ("datetime", "datetime"), ("datetime", "time"), ("uuid", "UUID")],
        ∀ module, (module, p.2) ∈ t.stubLines.flatMap Line.imported ↔ module = p.1 ∧ t.Annotates p.2 := by
  have hnames : [("datetime", "date"), ("datetime", "datetime"), ("datetime", "time"), ("uuid", "UUID")] =
      importedTypes.map fun p => (p.1, p.2.word) := rfl
  refine ⟨t.toList_routeStub, t.toList_stubModels, fun module => ?_, ?_⟩
  · rw [mem_imported_field_iff, exists_calls_iff]
  · rw [hnames]
    refine List.forall_mem_map.mpr fun p hp module => ?_
    rw [mem_imported_iff t hp, annotates_iff t hp]

end Table
end SchemaConcord
