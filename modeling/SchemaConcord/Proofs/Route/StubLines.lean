import SchemaConcord.Proofs.Source.Lines
import SchemaConcord.Route.Stub

/-!
# The lines of a stub

A stub is written line by line in the words of the handlers' language (`Table.toList_routeStub`): its lines fit, and its
words are well-formed when the names of the table and its columns are (`Table.sound_stubLines`).
-/

namespace SchemaConcord

open Text Source

namespace Stub

/-! ## Phrases -/

def tight (w : Word) : Item := (.none, w)

def spaced (w : Word) : Item := (.space, w)

def broken (w : Word) : Item := (.break 4, w)

def dictItems : List Item :=
  [spaced (.name "dict"), tight (.op "["), tight (.name "str"), tight (.op ","), spaced (.name "Any"), tight (.op "]")]

def typeItems : ValueType → List Item
  | .json => dictItems
  | v => [spaced (.name v.word)]

def orNone : List Item := [spaced (.op "|"), spaced (.keyword "None")]

def databaseItems : List Item :=
  [tight (.op ":"), spaced (.name "Any"), spaced (.op "="), spaced (.name "Depends"), tight (.op "("),
    tight (.name "get_db"), tight (.op ")")]

/-- The first line of a handler; its parameters end in the closing bracket. -/
def headLine (name : String) (parameters returns : List Item) : Line :=
  .code 0 (.keyword "async") ([spaced (.keyword "def"), spaced (.name name), tight (.op "(")] ++ parameters ++
    (spaced (.op "->") :: (returns ++ [tight (.op ":")])))

def callItems (method : String) (args : List Item) : List Item :=
  [spaced (.name "db"), tight (.op "."), tight (.name method), tight (.op "(")] ++ args ++ [tight (.op ")")]

def awaitLine (x method : String) (args : List Item) : Line :=
  .code 1 (.name x) ([spaced (.op "="), spaced (.keyword "await")] ++ callItems method args)

def decoratorLine (verb path : String) (status : List Item) : Line :=
  .code 0 (.op "@") ([tight (.name "router"), tight (.op "."), tight (.name verb), tight (.op "("), tight (.text path)] ++
    status ++ [tight (.op ")")])

def statusItems (n : Nat) : List Item :=
  [tight (.op ","), spaced (.name "status_code"), tight (.op "="), tight (.number n)]

def dumpItems : List Item :=
  [spaced (.name "payload"), tight (.op "."), tight (.name "model_dump"), tight (.op "("), tight (.name "by_alias"),
    tight (.op "="), tight (.keyword "True"), tight (.op ","), spaced (.name "exclude_unset"), tight (.op "="),
    tight (.keyword "True"), tight (.op ")")]

def returnLine (value : List Item) : Line :=
  .code 1 (.keyword "return") ([spaced (.op "\x7b"), tight (.text "data"), tight (.op ":")] ++ value ++ [tight (.op "\x7d")])

section
variable (n : Names) (kind : List Item)

def Names.keyItems : List Item :=
  [tight (.op ","), spaced (.name "filters"), tight (.op "="), tight (.op "\x7b"), tight (.text n.key), tight (.op ":"),
    spaced (.name n.key), tight (.op "\x7d")]

def Names.notFoundLine : Line :=
  .code 2 (.keyword "raise") [spaced (.name "HTTPException"), tight (.op "("), tight (.name "status_code"), tight (.op "="),
    tight (.number 404), tight (.op ","), spaced (.name "detail"), tight (.op "="), tight (.text (n.model ++ " not found")),
    tight (.op ")")]

def Names.checkLine : Line :=
  .code 1 (.keyword "if") ([spaced (.keyword "not"), spaced (.keyword "await")] ++
    callItems "select" ([tight (.text n.table), tight (.op ","), spaced (.text n.key)] ++ n.keyItems) ++ [tight (.op ":")])

/-! ## Handlers -/

def windowLine : Line :=
  .code 1 (.name "start") [spaced (.op "="), spaced (.op "("), tight (.name "page"), spaced (.op "-"),
    spaced (.number 1), tight (.op ")"), spaced (.op "*"), spaced (.name "limit")]

def pageLine : Line :=
  returnLine [spaced (.name "rows"), tight (.op "["), tight (.name "start"), tight (.op ":"), tight (.name "start"),
    spaced (.op "+"), spaced (.name "limit"), tight (.op "]"), tight (.op ","), spaced (.text "page"), tight (.op ":"),
    spaced (.name "page"), tight (.op ","), spaced (.text "limit"), tight (.op ":"), spaced (.name "limit"),
    tight (.op ","), spaced (.text "total"), tight (.op ":"), spaced (.name "len"), tight (.op "("), tight (.name "rows"),
    tight (.op ")")]

def listParameters : List Item :=
  [broken (.name "page"), tight (.op ":"), spaced (.name "int"), spaced (.op "="), spaced (.number 1), tight (.op ","),
    broken (.name "limit"), tight (.op ":"), spaced (.name "int"), spaced (.op "="), spaced (.number 10), tight (.op ","),
    broken (.name "sort"), tight (.op ":"), spaced (.name "str"), spaced (.op "|"), spaced (.keyword "None"),
    spaced (.op "="), spaced (.keyword "None"), tight (.op ","),
    broken (.name "filter"), tight (.op ":"), spaced (.name "str"), spaced (.op "|"), spaced (.keyword "None"),
    spaced (.op "="), spaced (.keyword "None"), tight (.op ","),
    broken (.name "db")] ++ databaseItems ++ [tight (.op ","), (.break 0, .op ")")]

def Names.keyParameters : List Item :=
  [tight (.name n.key), tight (.op ":")] ++ kind ++ [tight (.op ","), spaced (.name "db")] ++ databaseItems ++
    [tight (.op ")")]

def Names.createParameters : List Item :=
  [tight (.name "payload"), tight (.op ":"), spaced (.name ("Create" ++ n.model)), tight (.op ","),
    spaced (.name "db")] ++ databaseItems ++ [tight (.op ")")]

def Names.updateParameters : List Item :=
  [broken (.name n.key), tight (.op ":")] ++ kind ++ [tight (.op ","), broken (.name "payload"), tight (.op ":"),
    spaced (.name ("Update" ++ n.model)), tight (.op ","), broken (.name "db")] ++ databaseItems ++
    [tight (.op ","), (.break 0, .op ")")]

def Names.listLines : List Line :=
  [decoratorLine "get" n.base [],
    headLine ("list_" ++ n.plural) listParameters dictItems,
    awaitLine "rows" "select" [tight (.text n.table), tight (.op ","), spaced (.text "*"), tight (.op ","),
      spaced (.name "order_by"), tight (.op "="), tight (.name "sort")],
    windowLine,
    pageLine]

def Names.getLines : List Line :=
  [decoratorLine "get" n.item [],
    headLine ("get_" ++ n.single) (n.keyParameters kind) dictItems,
    awaitLine "rows" "select" ([tight (.text n.table), tight (.op ","), spaced (.text "*")] ++ n.keyItems),
    .code 1 (.keyword "if") [spaced (.keyword "not"), spaced (.name "rows"), tight (.op ":")],
    n.notFoundLine,
    returnLine [spaced (.name "rows"), tight (.op "["), tight (.number 0), tight (.op "]")]]

def Names.createLines : List Line :=
  [decoratorLine "post" n.base (statusItems 201),
    headLine ("create_" ++ n.single) n.createParameters dictItems,
    awaitLine "row" "insert" ([tight (.text n.table), tight (.op ",")] ++ dumpItems),
    returnLine [spaced (.name "row")]]

def Names.updateLines : List Line :=
  [decoratorLine "put" n.item [],
    headLine ("update_" ++ n.single) (n.updateParameters kind) dictItems,
    n.checkLine,
    n.notFoundLine,
    .code 1 (.name "values") (spaced (.op "=") :: dumpItems),
    awaitLine "row" "update" ([tight (.text n.table), tight (.op ","), spaced (.name "values")] ++ n.keyItems),
    returnLine [spaced (.name "row")]]

def Names.deleteLines : List Line :=
  [decoratorLine "delete" n.item (statusItems 204),
    headLine ("delete_" ++ n.single) (n.keyParameters kind) [spaced (.name "Response")],
    n.checkLine,
    n.notFoundLine,
    .code 1 (.keyword "await") (callItems "delete" (tight (.text n.table) :: n.keyItems)),
    .code 1 (.keyword "return") [spaced (.name "Response"), tight (.op "("), tight (.name "status_code"), tight (.op "="),
      tight (.number 204), tight (.op ")")]]

def Names.handlerLines : List Line :=
  [.blank, .blank] ++ n.listLines ++ [.blank, .blank] ++ n.getLines kind ++ [.blank, .blank] ++ n.createLines ++
    [.blank, .blank] ++ n.updateLines kind ++ [.blank, .blank] ++ n.deleteLines kind

end

/-! ## Imports and router -/

def fromLine (source : String) (names : List String) : List Line :=
  match names with
  | [] => []
  | x :: more => [.code 0 (.keyword "from") ([spaced (.name source), spaced (.keyword "import"), spaced (.name x)] ++
      more.flatMap fun y => [tight (.op ","), spaced (.name y)])]

def timeWords (types : List ValueType) : List String :=
  ([ValueType.date, .datetime, .time].filter types.contains).map ValueType.word

def importLines (types : List ValueType) (needsField : Bool) : List Line :=
  fromLine "datetime" (timeWords types) ++ fromLine "typing" ["Any"] ++
    fromLine "uuid" (if types.contains .uuid then ["UUID"] else []) ++ [.blank] ++
    fromLine "fastapi" ["APIRouter", "Depends", "HTTPException", "Response"] ++
    fromLine "pydantic" ("BaseModel" :: if needsField then ["Field"] else [])

def docLine (table : String) : Line :=
  .code 0 (.doc ("CRUD routes for the " ++ table ++ " table.\n\nGenerated by schema-integrity from the live schema. " ++
    "This file is never\noverwritten; edit it freely.\n")) []

def routerLine (resource : String) : Line :=
  .code 0 (.name "router") [spaced (.op "="), spaced (.name "APIRouter"), tight (.op "("), tight (.name "tags"),
    tight (.op "="), tight (.op "["), tight (.text resource), tight (.op "]"), tight (.op ")")]

def databaseLines : List Line :=
  [.code 0 (.keyword "async") [spaced (.keyword "def"), spaced (.name "get_db"), tight (.op "("), tight (.op ")"),
      spaced (.op "->"), spaced (.name "Any"), tight (.op ":")],
    .code 1 (.doc "Return the application's database client.") [],
    .code 1 (.keyword "raise") [spaced (.name "NotImplementedError"), tight (.op "("),
      tight (.text "Connect get_db to the application's database client"), tight (.op ")")]]

def headerLines (table resource : String) (imports : List Line) : List Line :=
  [docLine table, .blank] ++ imports ++ [.blank, routerLine resource, .blank, .blank] ++ databaseLines ++ [.blank, .blank]

/-! ## Input models -/

/-- Options with commas between them. -/
def optionItems : List (String × Word) → List Item
  | [] => []
  | (x, w) :: more => [tight (.name x), tight (.op "="), tight w] ++
      more.flatMap fun (x, w) => [tight (.op ","), spaced (.name x), tight (.op "="), tight w]

def modelLines (name : String) (fields : List Line) : List Line :=
  .code 0 (.keyword "class") [spaced (.name name), tight (.op "("), tight (.name "BaseModel"), tight (.op ")"),
    tight (.op ":")] :: if fields.isEmpty then [.code 1 (.keyword "pass") []] else fields

end Stub

namespace Column

open Stub

variable (partialInput : Bool) (c : Column)

def optionWords : List (String × Word) :=
  (if c.isRequiredInput partialInput then [] else [("default", .keyword "None")]) ++
    (if fieldAttribute c.name = c.name then [] else [("alias", .text c.name)]) ++
    (match c.lengthLimit? with
      | some n => [("max_length", .number n)]
      | none => [])

def inputItems : List Item := typeItems c.valueType ++ if c.isRequiredInput partialInput then [] else orNone

def valueItems : List Item :=
  match c.optionWords partialInput with
  | [] => []
  | options =>
    if options = [("default", .keyword "None")] then [spaced (.op "="), spaced (.keyword "None")]
    else [spaced (.op "="), spaced (.name "Field"), tight (.op "(")] ++ optionItems options ++ [tight (.op ")")]

def inputLine : Line :=
  .code 1 (.name (fieldAttribute c.name)) (tight (.op ":") :: (c.inputItems partialInput ++ c.valueItems partialInput))

end Column

namespace Table

open Stub

def modelLines (t : Table) : List Line :=
  Stub.modelLines ("Create" ++ t.stubNames.model) ((t.inputColumns false).map (Column.inputLine false)) ++
    [.blank, .blank] ++
    Stub.modelLines ("Update" ++ t.stubNames.model) ((t.inputColumns true).map (Column.inputLine true))

def stubLines (t : Table) : List Line :=
  headerLines t.name t.resourceName (importLines t.stubTypes t.stubNeedsField) ++ t.modelLines ++
    t.stubNames.handlerLines (typeItems t.keyType)

end Table

namespace Stub

/-! ## Characters -/

theorem itemChars_cons (gap : Gap) (w : Word) (items : List Item) :
    itemChars ((gap, w) :: items) = gap.chars ++ (w.chars ++ itemChars items) := by
  rw [itemChars, List.flatMap_cons, List.append_assoc]
  rfl

theorem itemChars_append (items more : List Item) : itemChars (items ++ more) = itemChars items ++ itemChars more :=
  List.flatMap_append

theorem itemChars_nil : itemChars [] = [] := rfl

theorem itemChars_typeItems (v : ValueType) : itemChars (typeItems v) = ' ' :: v.word.toList := by
  cases v <;> rfl

theorem digits_written : Nat.toDigits 10 0 = ['0'] ∧ Nat.toDigits 10 1 = ['1'] ∧ Nat.toDigits 10 10 = ['1', '0'] ∧
    Nat.toDigits 10 201 = ['2', '0', '1'] ∧ Nat.toDigits 10 204 = ['2', '0', '4'] ∧
    Nat.toDigits 10 404 = ['4', '0', '4'] := by
  decide

/-- Text lines and lines of words have the same characters. -/
def Spells (texts : List String) (lines : List Line) : Prop :=
  (texts.flatMap fun l => l.toList ++ ['\n']) = lineChars lines

theorem toList_joinLines (texts : List String) :
    (joinWith "\n" (texts ++ [""])).toList = texts.flatMap fun l => l.toList ++ ['\n'] := by
  induction texts with
  | nil => rfl
  | cons l texts ih =>
    rw [List.flatMap_cons, ← ih]
    cases texts with
    | nil => simp [joinWith]
    | cons m texts => simp [joinWith]

theorem toList_joinLine (texts : List String) (h : texts ≠ []) :
    (joinWith "\n" texts).toList ++ ['\n'] = texts.flatMap fun l => l.toList ++ ['\n'] := by
  induction texts with
  | nil => exact absurd rfl h
  | cons l texts ih =>
    cases texts with
    | nil => simp [joinWith]
    | cons m texts =>
      rw [List.flatMap_cons, ← ih (by simp)]
      simp [joinWith]

namespace Spells

variable {l m : String} {texts more : List String} {written : Line} {lines others : List Line}

theorem finished : Spells [] [] := rfl

theorem line (hl : l.toList ++ ['\n'] = written.chars) (h : Spells texts lines) :
    Spells (l :: texts) (written :: lines) := by
  rw [Spells, List.flatMap_cons, hl, h]
  rfl

theorem blank (h : Spells texts lines) : Spells ("" :: texts) (.blank :: lines) := .line rfl h

/-- A line that goes on inside brackets stands on several text lines. -/
theorem wrapped (h : Spells ((l ++ "\n" ++ m) :: texts) lines) : Spells (l :: m :: texts) lines := by
  rw [Spells, ← h, List.flatMap_cons, List.flatMap_cons, List.flatMap_cons, String.toList_append, String.toList_append]
  simp

theorem append (h : Spells texts lines) (hmore : Spells more others) : Spells (texts ++ more) (lines ++ others) := by
  rw [Spells, List.flatMap_append, h, hmore]
  exact List.flatMap_append.symm

theorem joined (hne : more ≠ []) (h : Spells (more ++ texts) lines) : Spells (joinWith "\n" more :: texts) lines := by
  rw [Spells, List.flatMap_cons, toList_joinLine _ hne, ← h, List.flatMap_append]

theorem toList_joined (hlast : texts.getLast? = some "") (h : Spells texts.dropLast lines) :
    (joinWith "\n" texts).toList = lineChars lines := by
  obtain ⟨first, rfl⟩ := List.getLast?_eq_some_iff.mp hlast
  rw [List.dropLast_concat] at h
  rw [toList_joinLines, h]

end Spells

set_option maxRecDepth 4000 in
theorem toList_handlersText (n : Names) (v : ValueType) (h : n.keyType = v.word) :
    (handlersText n).toList = lineChars (n.handlerLines (typeItems v)) := by
  unfold handlersText Names.notFound Names.checkExists Names.handlerLines
  -- One goal for each line, in the order of the handlers.
  refine Spells.toList_joined rfl <| .blank <| .blank <|
    .line ?_ <| .wrapped <| .wrapped <| .wrapped <| .wrapped <| .wrapped <| .wrapped <| .line ?_ <|
    .line ?_ <| .line ?_ <| .line ?_ <| .blank <| .blank <|
    .line ?_ <| .line ?_ <| .line ?_ <| .line ?_ <| .line ?_ <| .line ?_ <| .blank <| .blank <|
    .line ?_ <| .line ?_ <| .line ?_ <| .line ?_ <| .blank <| .blank <|
    .line ?_ <| .wrapped <| .wrapped <| .wrapped <| .wrapped <| .line ?_ <|
    .line ?_ <| .line ?_ <| .line ?_ <| .line ?_ <| .line ?_ <| .blank <| .blank <|
    .line ?_ <| .line ?_ <| .line ?_ <| .line ?_ <| .line ?_ <| .line ?_ .finished
  all_goals
    simp [Line.chars, itemChars_cons, itemChars_append, itemChars_nil, itemChars_typeItems, digits_written, Word.chars,
      Gap.chars, tight, spaced, broken, decoratorLine, headLine, statusItems, returnLine, dictItems, databaseItems,
      listParameters, Names.keyParameters, Names.createParameters, Names.updateParameters, awaitLine, callItems,
      dumpItems, windowLine, pageLine, Names.keyItems, Names.byKey, Names.item, Names.keyParameter, Names.notFoundLine,
      Names.checkLine, h]

/-! ## The head of a stub -/

theorem toList_names (x : String) (names : List String) :
    (joinWith ", " (x :: names)).toList = x.toList ++ names.flatMap fun y => ',' :: ' ' :: y.toList := by
  induction names generalizing x with
  | nil => simp [joinWith]
  | cons y names ih =>
    rw [joinWith, String.intercalate_cons_cons, String.toList_append, String.toList_append, ← joinWith, ih]
    simp

theorem spells_fromLine (source x : String) (names : List String) :
    Spells ["from " ++ source ++ " import " ++ joinWith ", " (x :: names)] (fromLine source (x :: names)) := by
  have hmore : itemChars (names.flatMap fun y => [tight (.op ","), spaced (.name y)]) =
      names.flatMap fun y => ',' :: ' ' :: y.toList := by
    rw [itemChars, List.flatMap_assoc]
    exact List.flatMap_congr fun y _ => by simp [tight, spaced, Gap.chars, Word.chars]
  refine .line ?_ .finished
  rw [Line.chars, itemChars_append, hmore]
  simp [itemChars_cons, itemChars_nil, spaced, Gap.chars, Word.chars, toList_names]

theorem spells_imports (types : List ValueType) (needsField : Bool) :
    Spells [Stub.imports types needsField] (importLines types needsField) := by
  have htimes : Spells (if (timeWords types).isEmpty then [] else
      ["from datetime import " ++ joinWith ", " (timeWords types)]) (fromLine "datetime" (timeWords types)) := by
    cases timeWords types with
    | nil => exact .finished
    | cons x names => exact spells_fromLine "datetime" x names
  have huuid : Spells (if types.contains .uuid then ["from uuid import UUID"] else [])
      (fromLine "uuid" (if types.contains .uuid then ["UUID"] else [])) := by
    split
    · exact spells_fromLine "uuid" "UUID" []
    · exact .finished
  have hmodel : Spells [if needsField then "from pydantic import BaseModel, Field" else "from pydantic import BaseModel"]
      (fromLine "pydantic" ("BaseModel" :: if needsField then ["Field"] else [])) := by
    cases needsField with
    | true => exact spells_fromLine "pydantic" "BaseModel" ["Field"]
    | false => exact spells_fromLine "pydantic" "BaseModel" []
  have htyping : Spells ["from typing import Any"] (fromLine "typing" ["Any"]) := spells_fromLine "typing" "Any" []
  have hframework : Spells ["from fastapi import APIRouter, Depends, HTTPException, Response"]
      (fromLine "fastapi" ["APIRouter", "Depends", "HTTPException", "Response"]) :=
    spells_fromLine "fastapi" "APIRouter" ["Depends", "HTTPException", "Response"]
  have hall := (((htimes.append htyping).append huuid).append (Spells.finished.blank.append hframework)).append hmodel
  refine .joined (by simp) ?_
  unfold timeWords at hall
  rw [List.isEmpty_map] at hall
  simpa [importLines, timeWords] using hall

theorem toList_headerText (table resource imports : String) {lines : List Line} (h : Spells [imports] lines) :
    (headerText table imports resource).toList = lineChars (headerLines table resource lines) := by
  have hhead : Spells ["\"\"\"CRUD routes for the " ++ table ++ " table.", "",
      "Generated by schema-integrity from the live schema. This file is never", "overwritten; edit it freely.", "\"\"\"",
      ""] [docLine table, .blank] := by
    refine .wrapped <| .wrapped <| .wrapped <| .wrapped <| .line ?_ Spells.finished.blank
    simp [docLine, Line.chars, itemChars_nil, Word.chars]
  have hdatabase : Spells ["async def get_db() -> Any:",
      "    \"\"\"Return the application's database client.\"\"\"",
      "    raise NotImplementedError(\"Connect get_db to the application's database client\")"] databaseLines :=
    .line rfl (.line rfl (.line rfl .finished))
  have hrouter : Spells ["router = APIRouter(tags=[\"" ++ resource ++ "\"])"] [routerLine resource] := by
    refine .line ?_ .finished
    simp [routerLine, Line.chars, itemChars_cons, itemChars_nil, tight, spaced, Gap.chars, Word.chars]
  have hall := (((hhead.append h).append (hrouter.append Spells.finished.blank.blank).blank).append hdatabase).append
    Spells.finished.blank.blank
  refine Spells.toList_joined rfl ?_
  simpa [headerLines] using hall

def optionText (o : String × Word) : String := o.1 ++ "=" ++ String.ofList o.2.chars

theorem toList_options (o : String × Word) (more : List (String × Word)) :
    (joinWith ", " ((o :: more).map optionText)).toList = itemChars (optionItems (o :: more)) := by
  rw [List.map_cons, toList_names, optionItems, itemChars_append, itemChars, itemChars, List.flatMap_assoc,
    List.flatMap_map]
  simp [optionText, tight, spaced, Gap.chars, Word.chars]

end Stub

namespace Column

open Stub

variable (partialInput : Bool) (c : Column)

theorem fieldOptions_eq : c.fieldOptions partialInput = (c.optionWords partialInput).map optionText := by
  have hdefault : (if c.isRequiredInput partialInput then [] else ["default=None"]) =
      (if c.isRequiredInput partialInput then [] else [("default", Word.keyword "None")]).map optionText := by
    split <;> rfl
  have halias : (if fieldAttribute c.name = c.name then [] else ["alias=\"" ++ c.name ++ "\""]) =
      (if fieldAttribute c.name = c.name then [] else [("alias", Word.text c.name)]).map optionText := by
    split
    · rfl
    · simp [optionText, Word.chars, ← String.toList_inj]
  unfold fieldOptions optionWords
  rw [List.map_append, List.map_append, ← hdefault, ← halias]
  refine (List.append_right_inj _).mpr ?_
  cases c.lengthLimit? with
  | none => rfl
  | some n => rfl

/-- Every option but the default has another name. -/
theorem eq_default {o : String × Word} (h : o ∈ c.optionWords partialInput) (htext : optionText o = "default=None") :
    o = ("default", .keyword "None") := by
  have hhead := congrArg (·.toList.head?) htext
  simp only [optionWords, List.mem_append] at h
  rcases h with (h | h) | h
  · split at h
    · cases h
    · exact List.mem_singleton.mp h
  · split at h
    · cases h
    · obtain rfl := List.mem_singleton.mp h
      simp [optionText] at hhead
  · split at h
    · obtain rfl := List.mem_singleton.mp h
      simp [optionText] at hhead
    · cases h

theorem fieldOptions_eq_default_iff :
    c.fieldOptions partialInput = ["default=None"] ↔ c.optionWords partialInput = [("default", .keyword "None")] := by
  rw [fieldOptions_eq]
  constructor
  · intro h
    obtain ⟨o, ho, htext⟩ := List.map_eq_singleton_iff.mp h
    rw [ho, eq_default partialInput c (by rw [ho]; exact List.mem_singleton_self o) htext]
  · intro h
    rw [h]
    rfl

theorem itemChars_inputItems : itemChars (c.inputItems partialInput) = ' ' :: (c.inputType partialInput).toList := by
  rw [inputItems, inputType, itemChars_append, itemChars_typeItems]
  split
  · simp [itemChars_nil]
  · simp [orNone, spaced, itemChars_cons, itemChars_nil, Gap.chars, Word.chars]

theorem toList_fieldLine : (c.fieldLine partialInput).toList ++ ['\n'] = (c.inputLine partialInput).chars := by
  have hdefault := fieldOptions_eq_default_iff partialInput c
  rw [fieldOptions_eq] at hdefault
  unfold fieldLine inputLine valueItems
  rw [fieldOptions_eq]
  cases hwords : c.optionWords partialInput with
  | nil => simp [Line.chars, itemChars_cons, itemChars_inputItems, tight, Gap.chars, Word.chars]
  | cons o more =>
    have htext := toList_options o more
    rw [hwords, List.map_cons] at hdefault
    rw [List.map_cons] at htext ⊢
    dsimp only
    by_cases hone : o :: more = [("default", .keyword "None")]
    · rw [if_pos (hdefault.mpr hone), if_pos hone]
      simp [Line.chars, itemChars_cons, itemChars_append, itemChars_nil, itemChars_inputItems, tight, spaced, Gap.chars,
        Word.chars]
    · rw [if_neg fun h => hone (hdefault.mp h), if_neg hone]
      simp [Line.chars, itemChars_cons, itemChars_append, itemChars_nil, itemChars_inputItems, tight, spaced, Gap.chars,
        Word.chars, htext]

end Column

namespace Stub

theorem spells_fieldLines (partialInput : Bool) (columns : List Column) :
    Spells (columns.map (Column.fieldLine partialInput)) (columns.map (Column.inputLine partialInput)) := by
  induction columns with
  | nil => exact .finished
  | cons c columns ih => exact .line (Column.toList_fieldLine partialInput c) ih

theorem toList_modelBlock (name : String) (partialInput : Bool) (columns : List Column) :
    (modelBlock name (columns.map (Column.fieldLine partialInput))).toList =
      lineChars (modelLines name (columns.map (Column.inputLine partialInput))) := by
  have hfields := spells_fieldLines partialInput columns
  have hclass (fields : List Line) : lineChars (modelLines name fields) = "class ".toList ++ name.toList ++
      "(BaseModel):\n".toList ++ lineChars (if fields.isEmpty then [.code 1 (.keyword "pass") []] else fields) := by
    simp [modelLines, lineChars, Line.chars, itemChars_cons, itemChars_nil, tight, spaced, Gap.chars, Word.chars]
  rw [hclass, modelBlock]
  cases columns with
  | nil => simp [lineChars, Line.chars, itemChars_nil, Word.chars]
  | cons c columns =>
    have hbody := toList_joinLine ((c :: columns).map (Column.fieldLine partialInput)) (by simp)
    rw [hfields] at hbody
    simp only [List.map_cons, List.isEmpty_cons, Bool.false_eq_true, if_false] at hbody ⊢
    rw [← hbody]
    simp

end Stub

namespace Table

theorem toList_stubModels (t : Table) : t.stubModels.toList = lineChars t.modelLines := by
  have hblank : "\n\n".toList = lineChars [.blank, .blank] := rfl
  unfold stubModels modelLines
  rw [String.toList_append, String.toList_append, Stub.toList_modelBlock, Stub.toList_modelBlock, hblank]
  simp only [lineChars, List.flatMap_append, List.append_assoc]

theorem toList_routeStub (t : Table) : t.routeStub.toList = lineChars t.stubLines := by
  rw [routeStub, String.toList_append, String.toList_append, Stub.toList_headerText _ _ _ (Stub.spells_imports _ _),
    toList_stubModels, Stub.toList_handlersText _ t.keyType rfl]
  simp [stubLines, lineChars]

end Table
end SchemaConcord
