import UserAccounts.Json.Basic

/-!
# Descriptions of an API

A typed form of the documents that describe an HTTP API: which operations there are, what they take
and what they answer. A body is described by reference to a named `Schema`; the properties of a
record hold plain values, lists or further references, so a schema never contains another one.

The JSON text of such a document is what `Json.encode` makes of it.
-/

namespace UserAccounts.OpenApi

/-- A member of an object, unless its value is absent. -/
def member {α : Type} [Json.Encode α] (name : String) : Option α → List (String × Json.Value)
  | some a => [(name, Json.encode a)]
  | none => []

/-- An array of texts. -/
def texts (items : List String) : Json.Value :=
  .array (items.map .string)

/-! ## Schemas -/

/-- What a value looks like. -/
inductive Shape where
  | anything
  | text
  | textOrNull
  /-- A signed integer of 64 bits, perhaps with a lower bound. -/
  | integer (minimum : Option Int)
  /-- An array of values of a named schema. -/
  | listOf (schema : String)
  /-- A value of a named schema. -/
  | reference (schema : String)
  deriving DecidableEq

/-- Where named schemas are found. -/
def schemaPath (schema : String) : String :=
  "#/components/schemas/" ++ schema

/-- A reference to a named schema. -/
def referenceMembers (schema : String) : List (String × Json.Value) :=
  [("$ref", .string (schemaPath schema))]

/-- The members that say what a value looks like. -/
def Shape.members : Shape → List (String × Json.Value)
  | .anything => []
  | .text => [("type", .string "string")]
  | .textOrNull => [("type", texts ["string", "null"])]
  | .integer minimum =>
    [("type", .string "integer"), ("format", .string "int64")] ++
      match minimum with
      | some n => [("minimum", .whole n)]
      | none => []
  | .listOf schema => [("type", .string "array"), ("items", .object (referenceMembers schema))]
  | .reference schema => referenceMembers schema

instance : Json.Encode Shape where
  encode shape := .object shape.members

/-- A property of a record. -/
structure Property where
  name : String
  required : Bool
  shape : Shape
  description : Option String
  sample : Option String
  deriving DecidableEq

namespace Property

/-- A property that must be there. -/
def needed (name : String) (shape : Shape) : Property :=
  ⟨name, true, shape, none, none⟩

/-- A property that may be left out. -/
def optional (name : String) (shape : Shape) : Property :=
  ⟨name, false, shape, none, none⟩

/-- The property with a description. -/
def describedAs (p : Property) (description : String) : Property :=
  { p with description := some description }

/-- The property with a sample of its value. -/
def like (p : Property) (sample : String) : Property :=
  { p with sample := some sample }

instance : Json.Encode Property where
  encode p := .object <|
    p.shape.members ++ member "description" p.description ++ member "example" p.sample

end Property

/-- A named description of values. -/
inductive Schema where
  /-- Objects with these properties; a closed one has no others. -/
  | record (description : String) (isClosed : Bool) (properties : List Property)
  /-- One of some texts. -/
  | choice (description : String) (names : List String)
  deriving DecidableEq

instance : Json.Encode Schema where
  encode
    | .record description isClosed properties => .object <|
      [("type", .string "object"), ("description", .string description),
        ("required", texts ((properties.filter (·.required)).map (·.name))),
        ("properties", .object (properties.map fun p => (p.name, Json.encode p)))] ++
        if isClosed then [("additionalProperties", .bool false)] else []
    | .choice description names => .object
      [("type", .string "string"), ("description", .string description), ("enum", texts names)]

/-! ## Operations -/

/-- Where a parameter stands in a request. -/
inductive Place where
  | path
  | query
  deriving DecidableEq

/-- The name of a place. -/
def Place.name : Place → String
  | .path => "path"
  | .query => "query"

/-- A parameter of an operation. -/
structure Parameter where
  name : String
  place : Place
  required : Bool
  description : String
  shape : Shape
  deriving DecidableEq

instance : Json.Encode Parameter where
  encode p := .object
    [("name", .string p.name), ("in", .string p.place.name), ("required", .bool p.required),
      ("description", .string p.description), ("schema", Json.encode p.shape)]

/-- A JSON body of a named schema. -/
def bodyContent (schema : String) : Json.Value :=
  .object [("application/json", .object [("schema", .object (referenceMembers schema))])]

/-- A response header with text in it. -/
structure ResponseHeader where
  name : String
  description : String
  deriving DecidableEq

/-- What an operation may answer. -/
structure Answer where
  status : Nat
  description : String
  /-- The schema of the body, if there is a body. -/
  body : Option String
  headers : List ResponseHeader
  deriving DecidableEq

namespace Answer

/-- An answer without body. -/
def bare (status : Nat) (description : String) : Answer :=
  ⟨status, description, none, []⟩

/-- An answer with a body of a named schema. -/
def withBody (status : Nat) (description schema : String) : Answer :=
  ⟨status, description, some schema, []⟩

/-- The headers of an answer, by name. -/
def headerMembers (headers : List ResponseHeader) : List (String × Json.Value) :=
  headers.map fun h =>
    (h.name, .object
      [("description", .string h.description), ("schema", Json.encode Shape.text)])

instance : Json.Encode Answer where
  encode a := .object <|
    [("description", .string a.description)] ++
      (match a.body with
        | some schema => [("content", bodyContent schema)]
        | none => []) ++
      if a.headers.isEmpty then [] else [("headers", .object (headerMembers a.headers))]

end Answer

/-- An operation: what is asked for with some method at some path. -/
structure Operation where
  method : String
  path : String
  name : String
  summary : String
  tag : String
  parameters : List Parameter
  /-- The schema of the body that is needed, if one is. -/
  body : Option String
  answers : List Answer
  deriving DecidableEq

instance : Json.Encode Operation where
  encode o := .object <|
    [("tags", texts [o.tag]), ("summary", .string o.summary), ("operationId", .string o.name)] ++
      (if o.parameters.isEmpty then [] else
        [("parameters", .array (o.parameters.map Json.encode))]) ++
      (match o.body with
        | some schema =>
          [("requestBody", .object [("content", bodyContent schema), ("required", .bool true)])]
        | none => []) ++
      [("responses", .object (o.answers.map fun a => (Text.natural a.status, Json.encode a)))]

/-! ## Documents -/

/-- Something with a description. -/
structure Described where
  name : String
  description : String
  deriving DecidableEq

/-- The description of an API. -/
structure Document where
  title : String
  description : String
  version : String
  servers : List Described
  tags : List Described
  operations : List Operation
  schemas : List (String × Schema)

namespace Document

/-- The paths at which there are operations, each once, in the order of the operations. -/
def paths (d : Document) : List String :=
  (d.operations.map (·.path)).eraseDups

/-- The operations at a path, by method. -/
def pathMembers (d : Document) (path : String) : List (String × Json.Value) :=
  (d.operations.filter (·.path == path)).map fun o => (o.method, Json.encode o)

/-- What the document describes under a method and a path. -/
def operation? (d : Document) (method path : String) : Option Operation :=
  d.operations.find? fun o => o.method == method && o.path == path

/-- What the document says of a status that an operation may answer. -/
def answer? (d : Document) (method path : String) (status : Nat) : Option Answer :=
  (d.operation? method path).bind fun o => o.answers.find? (·.status == status)

instance : Json.Encode Document where
  encode d := .object
    [("openapi", .string "3.1.0"),
      ("info", .object
        [("title", .string d.title), ("description", .string d.description),
          ("license", .object [("name", .string "")]), ("version", .string d.version)]),
      ("servers", .array (d.servers.map fun s =>
        .object [("url", .string s.name), ("description", .string s.description)])),
      ("paths", .object (d.paths.map fun path => (path, .object (d.pathMembers path)))),
      ("components", .object
        [("schemas", .object (d.schemas.map fun (name, s) => (name, Json.encode s)))]),
      ("tags", .array (d.tags.map fun t =>
        .object [("name", .string t.name), ("description", .string t.description)]))]

end Document

end UserAccounts.OpenApi
