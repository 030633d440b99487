import ClusterOperator.Frontend.Call
import ClusterOperator.Http.Basic
import ClusterOperator.Json.Reader
import ClusterOperator.Json.Record
import ClusterOperator.Url.Basic

/-!
# Clients of a frontend

A client sends the request to a server over HTTP and reads the reply. There is no connection to
keep: opening a client only checks that the cluster has an address.
-/

namespace ClusterOperator

namespace ServerRequest

/-- The URL of a request, or why there is none. -/
def url (request : ServerRequest) (base : String) : Except String Url :=
  match Url.read? (base ++ request.path) with
  | none => .error "builder error"
  | some url =>
      let url := url.withoutUser
      if url.isSendable then .ok url
      else .error ("builder error for url (" ++ url.text ++ ")")

/-- The shape of a list of search attributes. -/
def attributesShape : Json.Shape :=
  .record .strict "SearchAttributesResponse"
    [.defaulted "customAttributes" (.map AttributeType.shape)]

/-- Reads a list of search attributes; a reply without attributes lists none. -/
def attributes? (body : String) : Option (StringMap AttributeType) := do
  let document ← (Json.readAs attributesShape body).toOption
  Json.defaulted ∅ (Json.mapOf? AttributeType.ofJson?) "customAttributes" document.fields

/-- The answer in the body of a reply that reports success. -/
def ofBody (body : String) : (request : ServerRequest) → Except Error request.Answer
  | register _ => .ok ()
  | update _ => .ok ()
  | delete _ => .ok ()
  | listAttributes name =>
      match attributes? body with
      | some attributes => .ok attributes
      | none =>
          let request := listAttributes name
          .error <| .serialization <|
            request.operation ++ " for " ++ request.target ++ ": error decoding response body"
  | addAttributes _ _ => .ok ()
  | removeAttributes _ _ => .ok ()

def ofReply (request : ServerRequest) (reply : HttpReply) : Except Error request.Answer :=
  if reply.isSuccess then request.ofBody reply.body
  else
    .error <| request.failure (.ofStatus reply.code) <|
      "HTTP " ++ HttpStatus.text reply.code ++ ": " ++ reply.body

end ServerRequest

namespace Cluster

/-- Opens a client for a cluster. -/
def connect (cluster : Cluster) : Except Error Unit := cluster.frontendUrl.map fun _ => ()

def askFrontend {σ : Type} (carrier : Carrier σ) (cluster : Cluster) (request : ServerRequest)
    (state : σ) : Except Error request.Answer × σ :=
  match cluster.frontendUrl with
  | .error error => (.error error, state)
  | .ok base =>
      match request.url base with
      | .error problem => (.error (request.failure .unavailable problem), state)
      | .ok url =>
          match carrier (request.toHttp url.text) state with
          | (some reply, state) => (request.ofReply reply, state)
          | (none, state) =>
              let problem := "error sending request for url (" ++ url.text ++ ")"
              (.error (request.failure .unavailable problem), state)

end Cluster

end ClusterOperator
