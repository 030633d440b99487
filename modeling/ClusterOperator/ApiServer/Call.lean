import ClusterOperator.Child.Basic
import ClusterOperator.Http.Basic

/-!
# Calls of the API server

What can be asked of the API server, and the HTTP request for it. Every kind of objects has a path
of its own; an object has a second path for its status.
-/

namespace ClusterOperator

/-- The kinds of objects that are kept on the API server. -/
inductive ApiKind where
  | cluster
  | ns
  | child (kind : ChildKind)
  deriving DecidableEq

namespace ApiKind

/-- The path of the group that a kind belongs to. -/
def root : ApiKind → String
  | cluster => "/apis/temporal.io/v1beta1"
  | ns => "/apis/temporal.io/v1beta1"
  | child .service => "/api/v1"
  | child .deployment => "/apis/apps/v1"

/-- The name of all objects of a kind. -/
def plural : ApiKind → String
  | cluster => "temporalclusters"
  | ns => "temporalnamespaces"
  | child .service => "services"
  | child .deployment => "deployments"

/-- The path of all objects of a kind in a Kubernetes namespace. -/
def listPath (kind : ApiKind) (ns : String) : String :=
  kind.root ++ "/namespaces/" ++ ns ++ "/" ++ kind.plural

def path (kind : ApiKind) (key : ObjectKey) : String := kind.listPath key.ns ++ "/" ++ key.name

end ApiKind

/-- What a patch changes of an object. -/
inductive ObjectPart where
  /-- All but the status. -/
  | main
  | status
  deriving DecidableEq

/-- A call of the API server. -/
inductive ApiCall where
  | get (kind : ApiKind) (key : ObjectKey)
  /-- Asks for the objects of a kind in all Kubernetes namespaces. -/
  | list (kind : ApiKind)
  | create (kind : ApiKind) (ns : String) (document : Json)
  | replace (kind : ApiKind) (key : ObjectKey) (document : Json)
  | patch (kind : ApiKind) (key : ObjectKey) (part : ObjectPart) (changes : Json)
  /-- Asks to delete an object, and after it what it owns. -/
  | delete (kind : ApiKind) (key : ObjectKey)

namespace ApiCall

def method : ApiCall → HttpMethod
  | get _ _ => .get
  | list _ => .get
  | create _ _ _ => .post
  | replace _ _ _ => .put
  | patch _ _ _ _ => .patch
  | delete _ _ => .delete

def path : ApiCall → String
  | get kind key => kind.path key
  | list kind => kind.root ++ "/" ++ kind.plural
  | create kind ns _ => kind.listPath ns
  | replace kind key _ => kind.path key
  | patch kind key .main _ => kind.path key
  | patch kind key .status _ => kind.path key ++ "/status"
  | delete kind key => kind.path key

def contentType : ApiCall → Option String
  | get _ _ => none
  | list _ => none
  | create _ _ _ => some jsonContent
  | replace _ _ _ => some jsonContent
  | patch _ _ _ _ => some mergePatchContent
  | delete _ _ => some jsonContent

def body : ApiCall → Option Json
  | get _ _ => none
  | list _ => none
  | create _ _ document => some document
  | replace _ _ document => some document
  | patch _ _ _ changes => some changes
  | delete _ _ => some (.object [("propagationPolicy", .string "Background")])

/-- The name of the object that a call is about; a list and a new object need none. -/
def name? : ApiCall → Option String
  | get _ key => some key.name
  | list _ => none
  | create _ _ _ => none
  | replace _ key _ => some key.name
  | patch _ key _ _ => some key.name
  | delete _ key => some key.name

/-- The path with the place for options, of which there are none. Reading an object has no such
place. -/
def target : ApiCall → String
  | get kind key => kind.path key
  | call => call.path ++ "?"

/-- Whether a character can stand in the path of a request. -/
def canStandInPath (c : Char) : Bool :=
  0x21 ≤ c.toNat && c ∉ ['<', '>', Char.ofNat 0x60]

/-- Whether a character can stand among the options of a request. -/
def canStandInOptions (c : Char) : Bool := 0x21 ≤ c.toNat && c ∉ ['"', '<', '>']

/-- The target as it is sent: what follows a number sign is left out. -/
def sentTarget (call : ApiCall) : List Char := call.target.toList.takeWhile fun c => c ≠ '#'

/-- The length of the longest target. -/
def longestTarget : Nat := 65534

/-- Why a call cannot be sent: a nameless object, or a target that no request can have. -/
def problem? (call : ApiCall) : Option String :=
  let path := call.sentTarget.takeWhile fun c => c ≠ '?'
  let options := call.sentTarget.dropWhile fun c => c ≠ '?'
  let refused := fun problem => "Failed to build request: failed to " ++ problem
  if call.name? = some "" then
    some (refused "validate request: A non-empty name is required")
  else if longestTarget < call.target.utf8ByteSize then
    some (refused "build request: uri too long")
  else if path.all canStandInPath && options.all canStandInOptions then none
  else some (refused "build request: invalid uri character")

def toHttp (call : ApiCall) : HttpRequest where
  method := call.method
  target := String.ofList call.sentTarget
  contentType := call.contentType
  body := call.body

end ApiCall

end ClusterOperator
