import SchemaConcord.Route.Crud

/-!
# Route stubs

The source of a module with the five routes of a table, as a starting point for writing them by hand: imports, a
router, input models for creating and updating, and the handlers.
-/

namespace SchemaConcord

open Text

namespace Column

/-- The length that a text value is limited to; zero is no limit. -/
def lengthLimit? (c : Column) : Option Nat :=
  if c.valueType = .str then c.maxLength?.filter (0 < ·) else none

/-- Whether the line of a column needs more than an annotation and a default. -/
def needsField (c : Column) : Bool := c.lengthLimit?.isSome || fieldAttribute c.name != c.name

def fieldOptions (partialInput : Bool) (c : Column) : List String :=
  (if c.isRequiredInput partialInput then [] else ["default=None"]) ++
    (if fieldAttribute c.name = c.name then [] else ["alias=\"" ++ c.name ++ "\""]) ++
    (match c.lengthLimit? with
      | some n => ["max_length=" ++ toString n]
      | none => [])

def fieldLine (partialInput : Bool) (c : Column) : String :=
  let head := "    " ++ fieldAttribute c.name ++ ": " ++ c.inputType partialInput
  match c.fieldOptions partialInput with
  | [] => head
  | options =>
    if options = ["default=None"] then head ++ " = None" else head ++ " = Field(" ++ joinWith ", " options ++ ")"

end Column

namespace Stub

def modelBlock (name : String) (lines : List String) : String :=
  "class " ++ name ++ "(BaseModel):\n" ++ (if lines.isEmpty then "    pass" else joinWith "\n" lines) ++ "\n"

def imports (types : List ValueType) (needsField : Bool) : String :=
  let times := [ValueType.date, .datetime, .time].filter types.contains
  joinWith "\n" (
    (if times.isEmpty then [] else ["from datetime import " ++ joinWith ", " (times.map ValueType.word)]) ++
    ["from typing import Any"] ++
    (if types.contains .uuid then ["from uuid import UUID"] else []) ++
    ["", "from fastapi import APIRouter, Depends, HTTPException, Response",
      if needsField then "from pydantic import BaseModel, Field" else "from pydantic import BaseModel"])

def headerText (table imports resource : String) : String :=
  joinWith "\n" [
    "\"\"\"CRUD routes for the " ++ table ++ " table.",
    "",
    "Generated by schema-integrity from the live schema. This file is never",
    "overwritten; edit it freely.",
    "\"\"\"",
    "",
    imports,
    "",
    "router = APIRouter(tags=[\"" ++ resource ++ "\"])",
    "",
    "",
    "async def get_db() -> Any:",
    "    \"\"\"Return the application's database client.\"\"\"",
    "    raise NotImplementedError(\"Connect get_db to the application's database client\")",
    "",
    "",
    ""]

structure Names where
  table : String
  base : String
  plural : String
  single : String
  model : String
  key : String
  keyType : String

def Names.byKey (n : Names) : String := "filters=\x7b\"" ++ n.key ++ "\": " ++ n.key ++ "\x7d"

def Names.item (n : Names) : String := n.base ++ "/\x7b" ++ n.key ++ "\x7d"

def Names.keyParameter (n : Names) : String := n.key ++ ": " ++ n.keyType

def Names.notFound (n : Names) : String :=
  "        raise HTTPException(status_code=404, detail=\"" ++ n.model ++ " not found\")"

def Names.checkExists (n : Names) : String :=
  "    if not await db.select(\"" ++ n.table ++ "\", \"" ++ n.key ++ "\", " ++ n.byKey ++ "):"

def handlersText (n : Names) : String :=
  joinWith "\n" [
    "",
    "",
    "@router.get(\"" ++ n.base ++ "\")",
    "async def list_" ++ n.plural ++ "(",
    "    page: int = 1,",
    "    limit: int = 10,",
    "    sort: str | None = None,",
    "    filter: str | None = None,",
    "    db: Any = Depends(get_db),",
    ") -> dict[str, Any]:",
    "    rows = await db.select(\"" ++ n.table ++ "\", \"*\", order_by=sort)",
    "    start = (page - 1) * limit",
    "    return \x7b\"data\": rows[start:start + limit], \"page\": page, \"limit\": limit, \"total\": len(rows)\x7d",
    "",
    "",
    "@router.get(\"" ++ n.item ++ "\")",
    "async def get_" ++ n.single ++ "(" ++ n.keyParameter ++ ", db: Any = Depends(get_db)) -> dict[str, Any]:",
    "    rows = await db.select(\"" ++ n.table ++ "\", \"*\", " ++ n.byKey ++ ")",
    "    if not rows:",
    n.notFound,
    "    return \x7b\"data\": rows[0]\x7d",
    "",
    "",
    "@router.post(\"" ++ n.base ++ "\", status_code=201)",
    "async def create_" ++ n.single ++ "(payload: Create" ++ n.model ++
      ", db: Any = Depends(get_db)) -> dict[str, Any]:",
    "    row = await db.insert(\"" ++ n.table ++ "\", payload.model_dump(by_alias=True, exclude_unset=True))",
    "    return \x7b\"data\": row\x7d",
    "",
    "",
    "@router.put(\"" ++ n.item ++ "\")",
    "async def update_" ++ n.single ++ "(",
    "    " ++ n.keyParameter ++ ",",
    "    payload: Update" ++ n.model ++ ",",
    "    db: Any = Depends(get_db),",
    ") -> dict[str, Any]:",
    n.checkExists,
    n.notFound,
    "    values = payload.model_dump(by_alias=True, exclude_unset=True)",
    "    row = await db.update(\"" ++ n.table ++ "\", values, " ++ n.byKey ++ ")",
    "    return \x7b\"data\": row\x7d",
    "",
    "",
    "@router.delete(\"" ++ n.item ++ "\", status_code=204)",
    "async def delete_" ++ n.single ++ "(" ++ n.keyParameter ++ ", db: Any = Depends(get_db)) -> Response:",
    n.checkExists,
    n.notFound,
    "    await db.delete(\"" ++ n.table ++ "\", " ++ n.byKey ++ ")",
    "    return Response(status_code=204)",
    ""]

end Stub

namespace Table

/-- The type of the key column, text when the table does not have the column. -/
def keyType (t : Table) : ValueType := ((t.column? t.keyColumn).map Column.valueType).getD .str

def stubTypes (t : Table) : List ValueType := (t.inputColumns false).map Column.valueType ++ [t.keyType]

def stubNeedsField (t : Table) : Bool := (t.inputColumns false ++ t.inputColumns true).any Column.needsField

def stubNames (t : Table) : Stub.Names :=
  { table := t.name, base := t.basePath, plural := Naming.snakeCase (Naming.pluralize t.name)
    single := Naming.snakeCase (Naming.singularize t.name), model := Naming.pascalCase (Naming.singularize t.name)
    key := t.keyColumn, keyType := t.keyType.word }

def stubModels (t : Table) : String :=
  let model := t.stubNames.model
  Stub.modelBlock ("Create" ++ model) ((t.inputColumns false).map (Column.fieldLine false)) ++ "\n\n" ++
    Stub.modelBlock ("Update" ++ model) ((t.inputColumns true).map (Column.fieldLine true))

def routeStub (t : Table) : String :=
  Stub.headerText t.name (Stub.imports t.stubTypes t.stubNeedsField) t.resourceName ++ t.stubModels ++
    Stub.handlersText t.stubNames

end Table

end SchemaConcord
