import ClusterOperator.Frontend.Address
import ClusterOperator.Http.Basic
import ClusterOperator.Namespace.Document
import ClusterOperator.Program.Request
import ClusterOperator.SearchAttribute.Document

/-!
# Calls of a frontend

The request to a server as a request of the frontend's HTTP API: its method, its path and its body.
Names are put into the path as they are.
-/

namespace ClusterOperator

/-- The written form of a span in request bodies: its whole seconds. -/
def Duration.secondsText (span : Duration) : String := toString span.seconds ++ "s"

namespace NamespaceRequest

/-- The body of a registration. -/
def registerBody (request : NamespaceRequest) : Json :=
  .object <| request.fields ++
    [("workflowExecutionRetentionPeriod", .string request.retention.secondsText)]

/-- The body of an update, in which what is unset is empty. -/
def updateBody (request : NamespaceRequest) : Json :=
  .object
    [("updateInfo", .object
        [("description", .string (request.description.getD "")),
          ("ownerEmail", .string (request.ownerEmail.getD "")),
          ("data", Json.ofTexts request.data)]),
      ("config", .object
        [("workflowExecutionRetentionTtl", .string request.retention.secondsText)])]

end NamespaceRequest

namespace ServerRequest

def namespacesPath : String := "/api/v1/namespaces"

def method : ServerRequest → HttpMethod
  | register _ => .post
  | update _ => .post
  | delete _ => .delete
  | listAttributes _ => .get
  | addAttributes _ _ => .post
  | removeAttributes _ _ => .post

def path : ServerRequest → String
  | register _ => namespacesPath
  | update request => namespacesPath ++ "/" ++ request.name ++ "/update"
  | delete name => namespacesPath ++ "/" ++ name
  | listAttributes name => namespacesPath ++ "/" ++ name ++ "/search-attributes"
  | addAttributes name _ => namespacesPath ++ "/" ++ name ++ "/search-attributes"
  | removeAttributes name _ => namespacesPath ++ "/" ++ name ++ "/search-attributes/remove"

def body : ServerRequest → Option Json
  | register request => some request.registerBody
  | update request => some request.updateBody
  | delete _ => none
  | listAttributes _ => none
  | addAttributes name attributes => some <| .object
      [("namespace", .string name), ("searchAttributes", AttributeType.mapToJson attributes)]
  | removeAttributes name attributes => some <| .object
      [("namespace", .string name), ("searchAttributes", Json.ofTextList attributes)]

/-- The request that is sent to a URL. -/
def toHttp (request : ServerRequest) (url : String) : HttpRequest where
  method := request.method
  target := url
  contentType := request.body.map fun _ => jsonContent
  body := request.body

end ServerRequest

end ClusterOperator
