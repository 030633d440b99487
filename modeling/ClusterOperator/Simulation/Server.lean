import ClusterOperator.Error
import ClusterOperator.Program.Request

/-!
# A server in memory

The namespaces of a server, each with its search attributes. The server registers a name once, and
knows only the names that are registered.
-/

namespace ClusterOperator

/-- The search attributes of every namespace. -/
abbrev Server := StringMap (StringMap AttributeType)

namespace Server

/-- Answers a request with what is made of the attributes of its namespace, if there is such a
namespace. -/
def withTarget {α : Type} (request : ServerRequest) (server : Server)
    (act : StringMap AttributeType → α × Server) : Except Error α × Server :=
  match server.get? request.target with
  | none => (.error (request.failure .notFound "no such namespace"), server)
  | some attributes =>
      let (answer, server) := act attributes
      (.ok answer, server)

def answer (server : Server) : (request : ServerRequest) → Except Error request.Answer × Server
  | .register request =>
      if server.contains request.name then
        (.error ((ServerRequest.register request).failure .alreadyExists "taken"), server)
      else (.ok (), server.insert request.name ∅)
  | .update request => server.withTarget (.update request) fun _ => ((), server)
  | .delete name => server.withTarget (.delete name) fun _ => ((), server.erase name)
  | .listAttributes name =>
      server.withTarget (.listAttributes name) fun attributes => (attributes, server)
  | .addAttributes name added =>
      server.withTarget (.addAttributes name added) fun attributes =>
        ((), server.insert name (attributes.overlay added))
  | .removeAttributes name removed =>
      server.withTarget (.removeAttributes name removed) fun attributes =>
        ((), server.insert name (attributes.filter fun held _ => held ∉ removed))

end Server

end ClusterOperator
