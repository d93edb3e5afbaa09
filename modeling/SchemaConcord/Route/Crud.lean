import SchemaConcord.Naming.Words
import SchemaConcord.Route.Basic
import SchemaConcord.Route.Input

/-!
# Expected routes

Every table is expected to have five routes: list, read, create, update and delete its rows.
-/

namespace SchemaConcord.Table

def resourceName (t : Table) : String := Naming.kebabCase (Naming.pluralize t.name)

/-- The first column of the primary key, `id` when there is none. -/
def keyColumn (t : Table) : String :=
  match t.primaryKey with
  | some (k :: _) => k
  | _ => "id"

def basePath (t : Table) : String := "/api/" ++ t.resourceName

def itemPath (t : Table) : String := t.basePath ++ "/:" ++ t.keyColumn

def pageParameters : List RouteParameter :=
  [{ name := "page", location := .query, type := "integer", required := false },
    { name := "limit", location := .query, type := "integer", required := false },
    { name := "sort", location := .query, required := false },
    { name := "filter", location := .query, required := false }]

def crudRoutes (t : Table) : List Route :=
  let access (kind : OperationKind) : List Operation := [{ kind, table := t.name }]
  let key : List RouteParameter := [{ name := t.keyColumn }]
  [{ method := .get, path := t.basePath, parameters := pageParameters, operations := access .select,
     responses := [200, 401, 500] },
    { method := .get, path := t.itemPath, parameters := key, operations := access .select,
      responses := [200, 404, 500] },
    { method := .post, path := t.basePath, requestBody := some { fields := t.requestFields false },
      operations := access .insert, responses := [201, 400, 401, 500] },
    { method := .put, path := t.itemPath, parameters := key, requestBody := some { fields := t.requestFields true },
      operations := access .update, responses := [200, 400, 404, 500] },
    { method := .delete, path := t.itemPath, parameters := key, operations := access .delete,
      responses := [204, 404, 500] }]

end SchemaConcord.Table
