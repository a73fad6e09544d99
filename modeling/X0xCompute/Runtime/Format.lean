import X0xCompute.Lib.Json
import X0xCompute.Runtime

/-!
# The requests as JSON documents

The codecs that the serde derives of `runtime.rs` build for the requests, each field under
its name and its default, and exactly what documents they read.
-/

namespace X0xCompute

open Lib Lib.JsonCodec Lib.JsonFields

/-- `default_requested_slots`. -/
def defaultRequestedSlots : U16 := 1

def CreateReservationRequest.unpack : CreateReservationRequest ≃ String × String × U16 where
  toFun request := (request.model, request.consumer, request.requestedSlots)
  invFun
    | (model, consumer, requestedSlots) => { model, consumer, requestedSlots }

def CreateReservationRequest.json : JsonCodec CreateReservationRequest :=
  .record
    ((field "model" string).and <|
      (field "consumer" string).and <|
      fieldOrDefault defaultRequestedSlots "requested_slots" (unsigned 16))
    unpack

def OpenAiChatMessage.unpack : OpenAiChatMessage ≃ String × String where
  toFun message := (message.role, message.content)
  invFun
    | (role, content) => { role, content }

def OpenAiChatMessage.json : JsonCodec OpenAiChatMessage :=
  .record
    ((field "role" string).and <|
      field "content" string)
    unpack

/-- The fields of a chat request, with those that the runtime never reads. `float` is the
codec of `f32`. -/
def OpenAiChatCompletionRequest.jsonFields {F32 : Type} (float : JsonCodec F32) :
    JsonFields (String × List OpenAiChatMessage × Bool × Option U32 × Option F32) :=
  (field "model" string).and <|
    (field "messages" (list OpenAiChatMessage.json)).and <|
    (fieldOrDefault false "stream" boolean).and <|
    (fieldOrDefault none "max_tokens" (option (unsigned 32))).and <|
    fieldOrDefault none "temperature" (option float)

/-- A chat request as it is read from a document. -/
def OpenAiChatCompletionRequest.read {F32 : Type} (float : JsonCodec F32)
    (v : JsonValue) : Option OpenAiChatCompletionRequest :=
  ((record (jsonFields float) (.refl _)).decode v).map
    fun (model, messages, stream, _, _) => { model, messages, stream }

/-! ## What is read -/

end X0xCompute
