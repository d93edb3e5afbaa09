/-!
# Routes

An endpoint of the application: its method and path, its parameters, the shape of its request body, and the database
operations that its handler performs.
-/

namespace SchemaConcord

inductive HttpMethod where
  | get | post | put | patch | delete | head | options
  deriving DecidableEq, Repr, Inhabited

inductive OperationKind where
  | select | insert | update | delete
  deriving DecidableEq, Repr, Inhabited

inductive ParameterLocation where
  | path | query
  deriving DecidableEq, Repr, Inhabited

structure RouteParameter where
  name : String
  location : ParameterLocation := .path
  type : String := "string"
  required : Bool := true
  deriving DecidableEq, Repr, Inhabited

structure RequestBody where
  contentType : String := "application/json"
  required : Bool := true
  fields : List (String × String) := []
  deriving DecidableEq, Repr, Inhabited

/-- An access to a table; the columns are absent when they are not known. -/
structure Operation where
  kind : OperationKind
  table : String
  columns : Option (List String) := none
  deriving DecidableEq, Repr, Inhabited

structure Route where
  method : HttpMethod
  path : String
  source : String := ""
  handler : Option String := none
  parameters : List RouteParameter := []
  requestBody : Option RequestBody := none
  operations : List Operation := []
  responses : List Int := []
  deriving DecidableEq, Repr, Inhabited

namespace HttpMethod

def word : HttpMethod → String
  | .get => "GET"
  | .post => "POST"
  | .put => "PUT"
  | .patch => "PATCH"
  | .delete => "DELETE"
  | .head => "HEAD"
  | .options => "OPTIONS"

def verb : HttpMethod → String
  | .get => "get"
  | .post => "post"
  | .put => "put"
  | .patch => "patch"
  | .delete => "delete"
  | .head => "head"
  | .options => "options"

def all : List HttpMethod := [.get, .post, .put, .patch, .delete, .head, .options]

def ofVerb? (s : String) : Option HttpMethod := all.find? (·.verb = s)

end HttpMethod

namespace OperationKind

def word : OperationKind → String
  | .select => "select"
  | .insert => "insert"
  | .update => "update"
  | .delete => "delete"

def all : List OperationKind := [.select, .insert, .update, .delete]

end OperationKind

namespace ParameterLocation

def word : ParameterLocation → String
  | .path => "path"
  | .query => "query"

def all : List ParameterLocation := [.path, .query]

end ParameterLocation

def Route.key (r : Route) : String := r.method.word ++ " " ++ r.path

end SchemaConcord
