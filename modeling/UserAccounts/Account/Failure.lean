import UserAccounts.Json.Decoder
import UserAccounts.Text.Blank

/-!
# Failures that callers see

A `Failure` has a category, a message that is never blank, and perhaps details. Failures of the
store are turned into failures of this kind before they reach a caller. `Failure.make` falls back to
a fixed message; `Failure.make?` and the decoder refuse a blank one.
-/

namespace UserAccounts

open Text (Inspect inspect)

/-- The category of a failure. -/
inductive FailureCode where
  /-- The request is malformed or asks for something impossible. -/
  | invalidRequest
  /-- The request collides with what exists, such as a taken username. -/
  | conflict
  | notFound
  /-- Anything unexpected. -/
  | internal
  deriving DecidableEq

namespace FailureCode

/-- The name of a category in JSON. -/
def name : FailureCode → String
  | .invalidRequest => "invalid_request"
  | .conflict => "conflict"
  | .notFound => "not_found"
  | .internal => "internal_error"

/-- All categories. -/
def all : List FailureCode := [.invalidRequest, .conflict, .notFound, .internal]

/-- The category of a given name. -/
def ofName? (name : String) : Option FailureCode :=
  all.find? fun code => code.name == name

instance : Inspect FailureCode where
  inspect
    | .invalidRequest => "InvalidRequest"
    | .conflict => "Conflict"
    | .notFound => "NotFound"
    | .internal => "InternalError"

instance : Json.Encode FailureCode where
  encode code := .string code.name

instance : Json.Decode FailureCode where
  decode? depth d :=
    match d.caseName? depth with
    | some name => ofName? name
    | none => none

end FailureCode

/-- The message of a failure that was given none. -/
def fallbackMessage : String := "an internal error has occurred"

/-- A failure that callers see. -/
structure Failure where
  code : FailureCode
  message : String
  details : Option Json.Value
  notBlank : Text.isBlank message = false

namespace Failure

/-- The wording of the refusal of a blank message. -/
def blankMessageText : String := "error message must not be empty"

/-- A failure with this message, unless it is blank. -/
def make? (code : FailureCode) (message : String) : Option Failure :=
  if h : Text.isBlank message = false then some ⟨code, message, none, h⟩ else none

/-- The failure that stands in for one with a blank message. -/
def unexplained (code : FailureCode) : Failure :=
  ⟨code, fallbackMessage, none, by decide⟩

/-- A failure with this message, or with the fallback if it is blank. -/
def make (code : FailureCode) (message : String) : Failure :=
  (make? code message).getD (unexplained code)

/-- The same failure with these details. -/
def withDetails (f : Failure) (details : Json.Value) : Failure :=
  { f with details := some details }

/-- The request is malformed or asks for something impossible. -/
def invalidRequest (message : String) : Failure := make .invalidRequest message

/-- The request collides with what exists. -/
def conflict (message : String) : Failure := make .conflict message

/-- There is no such thing. -/
def notFound (message : String) : Failure := make .notFound message

/-- Something unexpected. -/
def internal (message : String) : Failure := make .internal message

instance : Inspect Failure where
  inspect f := Inspect.record "Error"
    [("code", inspect f.code), ("message", inspect f.message), ("details", inspect f.details)]

instance : Json.Encode Failure where
  encode f := .object <|
    [("code", Json.encode f.code), ("message", .string f.message)] ++
      match f.details with
      | some details => [("details", details)]
      | none => []

/-! ## Reading failures -/

/-- Why a JSON text is no failure. -/
inductive ReadError where
  /-- The text is not of the form of a failure. -/
  | malformed
  /-- The form is right, but the message is blank. -/
  | blankMessage
  deriving DecidableEq

/-- The fields of a failure. -/
def fieldRules : List Json.FieldRule :=
  [.needed "code", .needed "message", ⟨"details", true, false⟩]

/-- The parts of a failure that a document spells. -/
def parts? (depth : Nat) (d : Json.Document) :
    Option (FailureCode × String × Option Json.Value) :=
  match depth with
  | 0 => none
  | depth + 1 =>
    match d.fields? fieldRules with
    | some [code, message, details] =>
      match Json.required? depth code, Json.required? depth message,
          Json.optional? depth details with
      | some code, some message, some details => some (code, message, details)
      | _, _, _ => none
    | _ => none

/-- The failure that a JSON text spells. -/
def read (text : String) : Except ReadError Failure :=
  match (Json.Document.read? text).bind (parts? Json.maxDepth) with
  | none => .error .malformed
  | some (code, message, details) =>
    match make? code message with
    | some f => .ok { f with details := details }
    | none => .error .blankMessage

end Failure

end UserAccounts
