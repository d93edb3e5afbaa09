import SchemaConcord.Naming.Words
import SchemaConcord.Route.Path
import SchemaConcord.Route.Sql
import SchemaConcord.Source.Statement

/-!
# Routes in handler sources

Routes are recognised by their shape in the syntax tree of a source: a call of a verb with a path and handlers, or a
decorator with a path. Only literal paths that start with a slash count. The operations of a route are those in its
handlers: calls on models, and raw statements.
-/

namespace SchemaConcord

open Text Source

/-! ## Database operations -/

def rawMethods : List String :=
  ["query", "execute", "executemany", "exec_driver_sql", "fetch", "fetchrow", "fetchval", "fetch_all", "fetch_one",
    "fetch_val", "raw"]

def clientAttributes : List String :=
  ["app", "cache", "client", "config", "conn", "connection", "cursor", "db", "engine", "headers", "request",
    "response", "router", "self", "session", "settings", "state"]

/-- The kind of operation that a model's method stands for, by how its name begins. -/
def OperationKind.ofMethod? (method : String) : Option OperationKind :=
  let name := lowercase (onChars (·.filter (· != '_')) method)
  [("find", OperationKind.select), ("create", .insert), ("update", .update), ("delete", .delete)].findSome?
    fun (word, kind) => if hasHead name word then some kind else none

namespace Source.Node

def lastName? : Node → Option String
  | .name x => some x
  | .attribute _ x => some x
  | _ => none

def modelTable? (base : Node) (attr : String) : Option String :=
  if attr = "objects" then base.lastName?.map Naming.snakeCase
  else if clientAttributes.contains attr || hasHead attr "_" then none
  else some attr

def string? : Node → Option String
  | .string s => some s
  | _ => none

/-- The columns that a call names: the literal keys of its data and of its selection. -/
def namedColumns (keywords : List Node) : Option (List String) :=
  let found := keywords.flatMap fun
    | .keyword (some "data") (.dict keys _) => keys.filterMap string?
    | .keyword (some "select") (.dict keys _) => keys.filterMap string?
    | _ => []
  if found.isEmpty then none else some found

/-- A statement written as a literal, an interpolated string or a sum of such; an interpolated part reads as a
question mark. -/
def sqlText? : Node → Option String
  | .string s => some s
  | .interpolated parts => some (String.join (parts.map fun
      | .string s => s
      | _ => "?"))
  | .sum l r => do return (← sqlText? l) ++ (← sqlText? r)
  | _ => none

def rawOperations (sql : Node) : List Operation := ((sqlText? sql).map SqlText.operations).getD []

def ownOperations : Node → List Operation
  | .call (.attribute (.attribute base attr) method) args keywords =>
    match OperationKind.ofMethod? method with
    | some kind => match modelTable? base attr with
      | some table => if table.isEmpty then [] else [⟨kind, table, namedColumns keywords⟩]
      | none => []
    | none => raw method args
  | .call (.attribute _ method) args _ => raw method args
  | .call (.name "text") (sql :: _) _ => rawOperations sql
  | _ => []
where
  raw (method : String) : List Node → List Operation
    | sql :: _ => if rawMethods.contains method || method = "text" then rawOperations sql else []
    | [] => []

def operations (n : Node) : List Operation := (n.walk.flatMap ownOperations).eraseDups

end Source.Node

/-! ## Routes -/

namespace RouteSource

/-- The functions of a source by name; the first one of a name counts. -/
def functionNamed? (nodes : List Node) (name : String) : Option Node :=
  nodes.find? fun
    | .function n _ _ _ _ => n = name
    | _ => false

def build (method : HttpMethod) (path source : String) (handler : Option String) (bodies : List Node)
    (responses : List Int) : Route :=
  { method, path, source, handler, parameters := RoutePath.parameters path,
    operations := (bodies.flatMap Node.operations).eraseDups, responses }

/-- The body that a handler stands for: the function it names, or the handler itself. -/
def handlerBody? (nodes : List Node) : Node → Option Node
  | .name x => functionNamed? nodes x
  | .attribute _ x => functionNamed? nodes x
  | .lambda p b => some (.lambda p b)
  | .call f args keywords => some (.call f args keywords)
  | _ => none

/-- The route of a call of a verb; its handler is the last one that has a name. -/
def callRoute (nodes : List Node) (source : String) (method : HttpMethod) (path : String) (handlers : List Node) :
    Route :=
  build method path source (handlers.filterMap Node.lastName?).getLast? (handlers.filterMap (handlerBody? nodes)) []

def items? : Node → Option (List Node)
  | .sequence _ items => some items
  | _ => none

def listedMethods (keywords : List Node) : List HttpMethod :=
  (keywords.findSome? fun
    | .keyword (some "methods") v => (items? v).map fun items =>
        items.filterMap fun n => n.string?.bind fun s => HttpMethod.ofVerb? (lowercase s)
    | _ => none).getD []

def statusOfName? (name : String) : Option Int :=
  match after? "HTTP_".toList name.toList with
  | some (a :: b :: c :: _) => do
    let x ← digitValue? a
    let y ← digitValue? b
    let z ← digitValue? c
    return (x * 100 + y * 10 + z : Nat)
  | _ => none

def statusCodes (keywords : List Node) : List Int :=
  ((keywords.findSome? fun
    | .keyword (some "status_code") (.integer n) => some n
    | .keyword (some "status_code") (.attribute _ name) => statusOfName? name
    | _ => none).map ([·])).getD []

def decoratorMethods (name : String) (keywords : List Node) : List HttpMethod :=
  let word := lowercase name
  match HttpMethod.ofVerb? word with
  | some m => [m]
  | none =>
    if word = "route" || word = "api_route" then
      match listedMethods keywords with
      | [] => [.get]
      | methods => methods
    else []

def decoratorRoutes (source handler : String) (function : Node) : Node → List Route
  | .call f (.string path :: _) keywords =>
    match f.lastName? with
    | some name =>
      if hasHead path "/" then
        (decoratorMethods name keywords).map fun m =>
          build m path source (some handler) [function] (statusCodes keywords)
      else []
    | none => []
  | _ => []

def nodeRoutes (nodes : List Node) (source : String) (n : Node) : List Route :=
  match n with
  | .call (.attribute _ verb) (.string path :: handler :: handlers) _ =>
    match HttpMethod.ofVerb? verb with
    | some m => if hasHead path "/" then [callRoute nodes source m path (handler :: handlers)] else []
    | none => []
  | .function name _ _ decorators _ => decorators.flatMap (decoratorRoutes source name n)
  | _ => []

def routesOf (source : String) (tree : Node) : List Route :=
  let nodes := tree.walk
  nodes.flatMap (nodeRoutes nodes source)

def extract (text source : String) : Except SyntaxFault (List Route) := (parse text).map (routesOf source)

end RouteSource

end SchemaConcord
