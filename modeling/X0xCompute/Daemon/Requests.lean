import X0xCompute.Daemon.Reservations
import X0xCompute.Runtime.Format

/-!
# What the bodies of requests say

The two requests with a body, from the bytes of the body to the call of the runtime. The
extractor of axum is a parameter that reads the first JSON value of the body with the codec of
the request.
-/

namespace X0xCompute

open Lib Lib.JsonCodec Lib.JsonFields

/-- The size up to which axum reads a body, unless it is told otherwise. -/
def bodyLimit : ℕ := 2097152

/-- The streaming deserializer of `serde_json`: the first value of a text and the bytes after
it, or the text of its error. -/
abbrev JsonReader : Type := List U8 → Except String (JsonValue × List U8)

/-- An extractor that refuses as `Json` does. -/
def extractJson {α : Type} (firstValue : JsonReader) (decode : JsonValue → Option α)
    (request : HttpRequest) : Except JsonRejection α :=
  if request.contentType ≠ some "application/json" then
    .error (.missingJsonContentType "Expected request with Content-Type: application/json")
  else if bodyLimit < request.body.length then
    .error (.lengthLimitError "length limit exceeded")
  else
    match firstValue request.body with
    | .error error => .error (.jsonSyntaxError error)
    | .ok (v, _) =>
      match decode v with
      | some a => .ok a
      | none =>
        .error (.jsonDataError "Failed to deserialize the JSON body into the target type")

/-- The crates with extractors over a reader. -/
def HttpCrates.reading {F32 : Type} (http : HttpCrates) (firstValue : JsonReader)
    (float : JsonCodec F32) : HttpCrates :=
  { http with
    jsonReservation := extractJson firstValue CreateReservationRequest.json.decode
    jsonChat := extractJson firstValue (OpenAiChatCompletionRequest.read float) }

variable {F32 : Type} {http : HttpCrates} {firstValue : JsonReader} {float : JsonCodec F32}
  {isJson : Option String → Prop}

end X0xCompute
