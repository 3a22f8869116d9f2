import UserAccounts.OpenApi.Schema

/-!
# The description of the account API

The operations of the account service and its health probes, with the schemas of their bodies, as
clients are told about them.
-/

namespace UserAccounts.OpenApi

/-! ## Schemas -/

/-- The names of the schemas. -/
def failureSchema : String := "Error"
@[inherit_doc failureSchema] def failureCodeSchema : String := "ErrorCode"
@[inherit_doc failureSchema] def createBodySchema : String := "CreateUserAccountRequest"
@[inherit_doc failureSchema] def accountSchema : String := "UserAccountResponse"
@[inherit_doc failureSchema] def userSchema : String := "UserResponse"
@[inherit_doc failureSchema] def pageSchema : String := "UserAccountPageSchema"
@[inherit_doc failureSchema] def linksSchema : String := "PageLinksSchema"

/-- The body of a request to create an account. -/
def createBody : Schema :=
  .record "Request body for \x60POST /api/v1/user-accounts\x60." false
    [(Property.needed "username" .text).like "jdoe",
      (Property.needed "firstName" .text).like "John",
      (Property.needed "lastName" .text).like "Doe"]

/-- The categories of failures. -/
def failureCode : Schema :=
  .choice "Stable machine-readable error code describing the failure category."
    ["invalid_request", "conflict", "not_found", "internal_error"]

/-- How a failure is described; the description shows how one is made and looked at. -/
def failureDescription : String :=
  "Domain error payload.\n\n## Invariants\n- \x60message\x60 must be non-empty once trimmed of " ++
  "whitespace.\n\n# Examples\n\x60\x60\x60\nuse accounts::domain::\x7bError, ErrorCode\x7d;\n\n" ++
  "let err = Error::not_found(\"user account does not exist\");\n" ++
  "assert_eq!(err.code(), ErrorCode::NotFound);\n\x60\x60\x60"

/-- A failure. -/
def failure : Schema :=
  .record failureDescription true
    [.needed "code" (.reference failureCodeSchema),
      (Property.needed "message" .text).like "user account with username \"jdoe\" already exists",
      .optional "details" .anything]

/-- How a time is given. -/
def timeDescription : String := "Milliseconds since the Unix epoch."

/-- A user within an account. -/
def user : Schema :=
  .record "User embedded in an account response." false
    [.needed "id" .text, .needed "firstName" .text, .needed "lastName" .text,
      (Property.needed "createdAt" (.integer none)).describedAs timeDescription]

/-- An account. -/
def account : Schema :=
  .record "Account payload returned by the read endpoints." false
    [.needed "id" .text, .needed "username" .text, .needed "user" (.reference userSchema),
      (Property.needed "createdAt" (.integer none)).describedAs timeDescription]

/-- The links of a page. -/
def links : Schema :=
  .record "OpenAPI shape of the navigation links in a page response." false
    [((Property.needed "base" .text).describedAs "Origin of the service.").like
        "http://localhost:8080/",
      ((Property.needed "self" .text).describedAs "Collection URL without paging parameters.").like
        "http://localhost:8080/api/v1/user-accounts",
      ((Property.optional "next" .textOrNull).describedAs
        "Following page, absent on the last page.").like
        "http://localhost:8080/api/v1/user-accounts?start=20",
      (Property.optional "prev" .textOrNull).describedAs
        "Preceding page, absent on the first page."]

/-- A page of accounts. -/
def page : Schema :=
  .record "OpenAPI shape of \x60GET /api/v1/user-accounts\x60." false
    [.needed "links" (.reference linksSchema),
      (Property.needed "total" (.integer (some 0))).describedAs
        "Number of accounts ignoring pagination.",
      .needed "data" (.listOf accountSchema)]

/-- All schemas by name. -/
def schemas : List (String × Schema) :=
  [(createBodySchema, createBody), (failureSchema, failure), (failureCodeSchema, failureCode),
    (linksSchema, links), (pageSchema, page), (accountSchema, account), (userSchema, user)]

/-! ## Operations -/

/-- The tag of the operations on accounts. -/
def accountsTag : Described := ⟨"user-accounts", "Operations on user accounts"⟩

/-- The tag of the health probes. -/
def healthTag : Described := ⟨"health", "Endpoints for health checks"⟩

/-- The path of the accounts. -/
def collectionPath : String := "/api/v1/user-accounts"

/-- The path of an account. -/
def memberPath : String := collectionPath ++ "/\x7bid\x7d"

/-- The answer to any operation on accounts that fails unexpectedly. -/
def unexpected : Answer := .withBody 500 "Internal server error" failureSchema

/-- Create an account. -/
def createOperation : Operation where
  method := "post"
  path := collectionPath
  name := "createUserAccount"
  summary := "Create a user account."
  tag := accountsTag.name
  parameters := []
  body := some createBodySchema
  answers :=
    [⟨201, "Account created", none, [⟨"Location", "URL of the new account"⟩]⟩,
      .withBody 400 "Malformed request" failureSchema,
      .withBody 409 "Username already taken" failureSchema,
      unexpected]

/-- List accounts. -/
def listOperation : Operation where
  method := "get"
  path := collectionPath
  name := "listUserAccounts"
  summary := "List user accounts one page at a time."
  tag := accountsTag.name
  parameters :=
    [⟨"limit", .query, false,
        "Page size; 0 or absent selects the default, larger values are capped.",
        .integer (some 0)⟩,
      ⟨"start", .query, false, "Zero-based offset of the first account.", .integer (some 0)⟩]
  body := none
  answers :=
    [.withBody 200 "One page of accounts" pageSchema,
      .withBody 400 "Malformed query" failureSchema,
      unexpected]

/-- Find an account. -/
def findOperation : Operation where
  method := "get"
  path := memberPath
  name := "getUserAccount"
  summary := "Fetch one user account."
  tag := accountsTag.name
  parameters := [⟨"id", .path, true, "Account identifier", .text⟩]
  body := none
  answers :=
    [.withBody 200 "The account" accountSchema,
      .withBody 404 "No such account" failureSchema,
      unexpected]

/-- Probe whether the service is alive. -/
def liveOperation : Operation where
  method := "get"
  path := "/health/live"
  name := "live"
  summary := "Liveness probe: 200 until shutdown begins."
  tag := healthTag.name
  parameters := []
  body := none
  answers := [.bare 200 "Server is alive", .bare 503 "Server is shutting down"]

/-- Probe whether the service is ready. -/
def readyOperation : Operation where
  method := "get"
  path := "/health/ready"
  name := "ready"
  summary := "Readiness probe: 200 once the store is reachable, 503 otherwise."
  tag := healthTag.name
  parameters := []
  body := none
  answers := [.bare 200 "Server is ready to handle traffic", .bare 503 "Server is not ready"]

/-- The description of the account service. -/
def accounts : Document where
  title := "User accounts API"
  description := "Create, list and fetch user accounts, plus health probes."
  version := "0.1.0"
  servers := [⟨"/", "Relative to the deployment base URL"⟩]
  tags := [accountsTag, healthTag]
  operations := [createOperation, listOperation, findOperation, liveOperation, readyOperation]
  schemas := schemas

end UserAccounts.OpenApi
