import SchemaConcord.Route.Basic
import SchemaConcord.Schema.Document

/-!
# Route documents

Routes and their parts as records, and the reading of such records.
-/

namespace SchemaConcord

open Datum Reader

namespace RouteParameter

def toDatum (p : RouteParameter) : Datum :=
  .record [("name", .text p.name), ("location", .text p.location.word), ("type", .text p.type),
    ("required", .flag p.required)]

def read : Reader RouteParameter :=
  model fun f => RouteParameter.mk <$> needField f "name" text <*>
    defaultField f "location" (choice .literalValue (wordTable ParameterLocation.word ParameterLocation.all)) .path <*>
    defaultField f "type" text "string" <*> defaultField f "required" flag true

end RouteParameter

namespace RequestBody

def toDatum (b : RequestBody) : Datum :=
  .record [("content_type", .text b.contentType), ("required", .flag b.required),
    ("fields", .record (b.fields.map fun (k, v) => (k, .text v)))]

def read : Reader RequestBody :=
  model fun f => RequestBody.mk <$> defaultField f "content_type" text "application/json" <*>
    defaultField f "required" flag true <*> defaultField f "fields" (table text) []

end RequestBody

namespace Operation

def toDatum (o : Operation) : Datum :=
  .record [("kind", .text o.kind.word), ("table", .text o.table), ("columns", ofOption texts o.columns)]

def read : Reader Operation :=
  model fun f => Operation.mk <$>
    needField f "kind" (choice .enumValue (wordTable OperationKind.word OperationKind.all)) <*>
    needField f "table" text <*> optionalField f "columns" (list text)

end Operation

namespace Route

def toDatum (r : Route) : Datum :=
  .record [("method", .text r.method.word), ("path", .text r.path), ("source", .text r.source),
    ("handler", ofOption .text r.handler), ("parameters", .list (r.parameters.map RouteParameter.toDatum)),
    ("request_body", ofOption RequestBody.toDatum r.requestBody),
    ("operations", .list (r.operations.map Operation.toDatum)), ("responses", .list (r.responses.map .int))]

def read : Reader Route :=
  model fun f => Route.mk <$> needField f "method" (choice .enumValue (wordTable HttpMethod.word HttpMethod.all)) <*>
    needField f "path" text <*> defaultField f "source" text "" <*> optionalField f "handler" text <*>
    defaultField f "parameters" (list RouteParameter.read) [] <*> optionalField f "request_body" RequestBody.read <*>
    defaultField f "operations" (list Operation.read) [] <*> defaultField f "responses" (list int) []

end Route

end SchemaConcord
