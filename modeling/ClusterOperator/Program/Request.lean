import ClusterOperator.Child.Basic
import ClusterOperator.Error
import ClusterOperator.Namespace.Basic
import ClusterOperator.Object.Patch
import ClusterOperator.SearchAttribute.Type

/-!
# Requests

What a pass can ask of the world: of the store that keeps the objects, and of the server that a
cluster runs. Each request has a type of answers; instead of an answer there can always be an error.
-/

namespace ClusterOperator

/-- A request to the store of objects. -/
inductive StoreRequest where
  | getCluster (key : ObjectKey)
  | replaceCluster (cluster : Cluster)
  | patchCluster (key : ObjectKey) (patch : ObjectPatch ClusterStatus)
  | getNamespace (key : ObjectKey)
  | listNamespaces
  | patchNamespace (key : ObjectKey) (patch : ObjectPatch NamespaceStatus)
  | getChild (key : ChildKey)
  | createChild (child : Child)
  | replaceChild (child : Child)
  | deleteChild (key : ChildKey)

/-- What the store answers. An object that does not exist is no error. -/
abbrev StoreRequest.Answer : StoreRequest → Type
  | getCluster _ => Option Cluster
  | replaceCluster _ => Cluster
  | patchCluster _ _ => Unit
  | getNamespace _ => Option Namespace
  | listNamespaces => List Namespace
  | patchNamespace _ _ => Unit
  | getChild _ => Option Child
  | createChild _ => Child
  | replaceChild _ => Child
  | deleteChild _ => Unit

/-- A request to a server. -/
inductive ServerRequest where
  | register (request : NamespaceRequest)
  | update (request : NamespaceRequest)
  | delete (name : String)
  | listAttributes (name : String)
  | addAttributes (name : String) (attributes : StringMap AttributeType)
  | removeAttributes (name : String) (attributes : List String)

abbrev ServerRequest.Answer : ServerRequest → Type
  | register _ => Unit
  | update _ => Unit
  | delete _ => Unit
  | listAttributes _ => StringMap AttributeType
  | addAttributes _ _ => Unit
  | removeAttributes _ _ => Unit

/-- The words for what a request asks for. -/
def ServerRequest.operation : ServerRequest → String
  | register _ => "register namespace"
  | update _ => "update namespace"
  | delete _ => "delete namespace"
  | listAttributes _ => "list search attributes"
  | addAttributes _ _ => "add search attributes"
  | removeAttributes _ _ => "remove search attributes"

/-- The name of the namespace that a request is about. -/
def ServerRequest.target : ServerRequest → String
  | register request => request.name
  | update request => request.name
  | delete name => name
  | listAttributes name => name
  | addAttributes name _ => name
  | removeAttributes name _ => name

/-- The error of a request that did not do what it should. -/
def ServerRequest.failure (request : ServerRequest) (fault : RemoteFault) (message : String) :
    Error :=
  .remote request.operation request.target fault message

/-- A request to the store, or to the server of a cluster over a connection that is opened before
and closed after. -/
inductive Request where
  | store (request : StoreRequest)
  | connect (cluster : Cluster)
  | server (cluster : Cluster) (request : ServerRequest)
  | close (cluster : Cluster)

abbrev Request.Answer : Request → Type
  | store request => request.Answer
  | connect _ => Unit
  | server _ request => request.Answer
  | close _ => Unit

end ClusterOperator
