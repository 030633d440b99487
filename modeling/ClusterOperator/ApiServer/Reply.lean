import ClusterOperator.ApiServer.Call
import ClusterOperator.Child.Document
import ClusterOperator.Cluster.Document
import ClusterOperator.Error
import ClusterOperator.Http.Basic
import ClusterOperator.Json.Reader
import ClusterOperator.Namespace.Document

/-!
# Replies of the API server

A reply holds a document, whose shape depends on the call, or says why there is none: in a document
of its own, or in any other text.
-/

namespace ClusterOperator

/-! ## Documents -/

/-- The shape of an object. -/
def ApiKind.shape : ApiKind → Json.Shape
  | cluster => Cluster.shape
  | ns => Namespace.shape
  | child kind => Child.shape kind

namespace ApiCall

/-- The shape of a list of objects. -/
def listShape (kind : ApiKind) : Json.Shape :=
  let metadata : Json.Shape :=
    .record .lenient "ListMeta"
      [.optional "continue" .text, .optional "remainingItemCount" (.signed 64),
        .optional "resourceVersion" .text, .optional "selfLink" .text]
  .record .gathering "ObjectList"
    [.defaulted "metadata" metadata, .required "items" (.optional (.list kind.shape))]

/-- The shape of a report about a deletion. -/
def reportShape : Json.Shape :=
  let cause : Json.Shape :=
    .record .strict "StatusCause"
      [.defaulted "reason" .text, .defaulted "message" .text, .defaulted "field" .text]
  let details : Json.Shape :=
    .record .strict "StatusDetails"
      [.defaulted "name" .text, .defaulted "group" .text, .defaulted "kind" .text,
        .defaulted "uid" .text, .defaulted "causes" (.list cause),
        .defaulted "retryAfterSeconds" (.unsigned 32)]
  .record .strict "Status"
    [.optional "status" (.word ["Success", "Failure"]), .defaulted "code" (.unsigned 16),
      .defaulted "message" .text, .defaulted "reason" .text, .optional "details" details]

/-- Reads the reply to a deletion: a report, or the object as it was. -/
def readDeletion (kind : ApiKind) (text : String) : Except Json.Fault Json := do
  let document ← Json.readAs .anything text
  let word := (Json.lookup "kind" document.fields.reverse).bind Json.string?
  Json.readAs (if word = some "Status" then reportShape else kind.shape) text

/-- Reads the document in the reply to a call. -/
def readDocument (call : ApiCall) (text : String) : Except Json.Fault Json :=
  match call with
  | get kind _ => Json.readAs kind.shape text
  | list kind => Json.readAs (listShape kind) text
  | create kind _ _ => Json.readAs kind.shape text
  | replace kind _ _ => Json.readAs kind.shape text
  | patch kind _ _ _ => Json.readAs kind.shape text
  | delete kind _ => readDeletion kind text

end ApiCall

/-! ## Failures -/

namespace ApiFailure

/-- The shape of a document that says why a call was refused. -/
def shape : Json.Shape :=
  .record .strict "ErrorResponse"
    [.required "status" .text, .defaulted "message" .text, .defaulted "reason" .text,
      .required "code" (.unsigned 16)]

/-- Reads why a call was refused. -/
def ofJson? (json : Json) : Option ApiFailure := do
  let members ← json.strictMembers? ["status", "message", "reason", "code"]
  pure <| .refused
    (← Json.required Json.string? "status" members)
    (← Json.defaulted "" Json.string? "message" members)
    (← Json.defaulted "" Json.string? "reason" members)
    (← Json.required (Json.word? 16) "code" members)

/-- Why a call was refused, in the words of a reply that is no such document. -/
def ofText (reply : HttpReply) : ApiFailure :=
  .refused (HttpStatus.text reply.code) (Text.quote reply.body) "Failed to parse error data"
    reply.code

/-- Why a call was refused. -/
def ofReply (reply : HttpReply) : ApiFailure :=
  ((Json.readAs shape reply.body).toOption.bind ofJson?).getD (ofText reply)

/-- A document that is not what it should be. -/
def unreadable : ApiFailure := .lost "Error deserializing response"

/-- A reply whose text is not the document that it should be. -/
def ofFault (fault : Json.Fault) : ApiFailure :=
  .lost ("Error deserializing response: " ++ fault.text)

/-- A call without a reply. -/
def unanswered : ApiFailure := .lost "ServiceError: client error (SendRequest)"

end ApiFailure

/-! ## Servers -/

/-- The document in the reply to a call. -/
def ApiCall.result (call : ApiCall) (reply : HttpReply) : Except ApiFailure Json :=
  if reply.isFailure then .error (.ofReply reply)
  else (call.readDocument reply.body).mapError .ofFault

/-- An API server: somebody who takes calls. -/
abbrev ApiServer (σ : Type) := ApiCall → σ → Except ApiFailure Json × σ

/-- The API server that a carrier reaches. -/
def ApiServer.over {σ : Type} (carrier : Carrier σ) : ApiServer σ := fun call state =>
  match call.problem? with
  | some problem => (.error (.lost problem), state)
  | none =>
      match carrier call.toHttp state with
      | (some reply, state) => (call.result reply, state)
      | (none, state) => (.error .unanswered, state)

end ClusterOperator
