import X0xCompute.Config.Format
import X0xCompute.Error
import X0xCompute.Mesh
import X0xCompute.Runtime

/-!
# Requests, responses and errors over HTTP

What the handlers of `daemon.rs` read of a request and put in a response, and the response
that `error.rs` makes of an error. The extractors of axum are parameters; their rejections
and their statuses are the documented ones.
-/

namespace X0xCompute

/-- `http::Method`, as far as the routes tell methods apart. -/
inductive Method where
  | get
  | head
  | post
  | delete
  | other (name : String)
  deriving DecidableEq

/-- A request, without the headers that no handler reads. `path` is the path of its URI as it
was sent. -/
structure HttpRequest where
  method : Method
  path : String
  contentType : Option String
  body : List U8

/-- `http::StatusCode`, the codes that the daemon answers with. -/
inductive StatusCode where
  | ok
  | created
  | noContent
  | badRequest
  | notFound
  | methodNotAllowed
  | conflict
  | payloadTooLarge
  | unsupportedMediaType
  | unprocessableEntity
  | internalServerError
  | notImplemented
  deriving DecidableEq

def StatusCode.code : StatusCode → ℕ
  | ok => 200
  | created => 201
  | noContent => 204
  | badRequest => 400
  | notFound => 404
  | methodNotAllowed => 405
  | conflict => 409
  | payloadTooLarge => 413
  | unsupportedMediaType => 415
  | unprocessableEntity => 422
  | internalServerError => 500
  | notImplemented => 501

/-- The status says that the request was carried out. -/
def StatusCode.isSuccess (status : StatusCode) : Bool := 200 ≤ status.code ∧ status.code < 300

/-- The body of a response: the value it is the JSON form of, a text, or nothing. -/
inductive HttpBody where
  | empty
  | text (text : String)
  | health (status : String)
  | identity (identity : AgentIdentitySnapshot)
  | capability (capability : CapabilityAnnouncement)
  | peers (peers : List PeerCapabilityRecord)
  | config (config : ComputeConfig)
  | inventory (models : List LocalModelInventory)
  | reservations (reservations : List ModelReservation)
  | reservation (reservation : ModelReservation)
  | models (models : OpenAiModelListResponse)
  | completion (completion : OpenAiChatCompletionResponse)
  | error (errorType message : String)

structure HttpResponse where
  status : StatusCode
  body : HttpBody

/-- `axum::extract::rejection::JsonRejection`, with the text of the response. -/
inductive JsonRejection where
  | missingJsonContentType (text : String)
  | jsonSyntaxError (text : String)
  | jsonDataError (text : String)
  | lengthLimitError (text : String)
  | unknownBodyError (text : String)

def JsonRejection.status : JsonRejection → StatusCode
  | missingJsonContentType _ => .unsupportedMediaType
  | jsonSyntaxError _ | unknownBodyError _ => .badRequest
  | jsonDataError _ => .unprocessableEntity
  | lengthLimitError _ => .payloadTooLarge

def JsonRejection.text : JsonRejection → String
  | missingJsonContentType text | jsonSyntaxError text | jsonDataError text
  | lengthLimitError text | unknownBodyError text => text

def JsonRejection.intoResponse (rejection : JsonRejection) : HttpResponse where
  status := rejection.status
  body := .text rejection.text

/-- What the handlers call of other crates: the extractors `Json` of the two requests, the
extractor `Path`, which fails on a segment that does not decode to UTF-8, and the `Display`
of paths. -/
structure HttpCrates where
  jsonReservation : HttpRequest → Except JsonRejection CreateReservationRequest
  jsonChat : HttpRequest → Except JsonRejection OpenAiChatCompletionRequest
  pathSegment : String → Except String String
  displayPath : PathBuf → String

/-- A segment without an escape is extracted as it is. -/
def HttpCrates.KeepsPlain (crates : HttpCrates) : Prop :=
  ∀ segment : String, '%' ∉ segment.toList → crates.pathSegment segment = .ok segment

namespace ComputeError

/-- `Display` of an error. -/
def display (displayPath : PathBuf → String) : ComputeError → String
  | x0xIdentity error => "x0x identity error: " ++ error
  | io error => "io error: " ++ error
  | json error => "json serialization error: " ++ error
  | tomlDecode error => "toml parse error: " ++ error
  | tomlEncode error => "toml encode error: " ++ error
  | userIdentityRequired =>
    "user identity is required by configuration but no user_id is bound"
  | invalidIdentityEncoding field details => "invalid " ++ field ++ " encoding: " ++ details
  | missingParentDirectory path => "missing parent directory for path " ++ displayPath path
  | modelNotFound model => "model not found: " ++ model
  | modelCapacityExceeded model requestedSlots availableSlots =>
    "model capacity exceeded for " ++ model ++ ": requested " ++
      Nat.repr requestedSlots.toNat ++ " slot(s), available " ++ Nat.repr availableSlots.toNat
  | reservationNotFound reservationId => "reservation not found: " ++ reservationId
  | invalidReservationRequest message => "invalid reservation request: " ++ message
  | invalidChatRequest message => "invalid chat request: " ++ message
  | unsupportedFeature message => "unsupported feature: " ++ message

/-- The status and the type that an error is answered with. -/
def statusAndType : ComputeError → StatusCode × String
  | modelNotFound _ | reservationNotFound _ => (.notFound, "not_found")
  | modelCapacityExceeded _ _ _ => (.conflict, "capacity_exceeded")
  | invalidReservationRequest _ | invalidChatRequest _ | userIdentityRequired
  | invalidIdentityEncoding _ _ | missingParentDirectory _ =>
    (.badRequest, "invalid_request")
  | unsupportedFeature _ => (.notImplemented, "unsupported_feature")
  | x0xIdentity _ | io _ | json _ | tomlDecode _ | tomlEncode _ =>
    (.internalServerError, "internal_error")

/-- `IntoResponse` of an error. -/
def intoResponse (displayPath : PathBuf → String) (error : ComputeError) : HttpResponse where
  status := error.statusAndType.1
  body := .error error.statusAndType.2 (error.display displayPath)

end ComputeError

end X0xCompute
