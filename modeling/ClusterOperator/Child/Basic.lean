import ClusterOperator.Object.Metadata

/-!
# Child objects

The objects that a cluster owns, services and deployments. The fields that matter here have types of
their own; what else an object may say is kept as it was read, under `rest`. A child is known by its
kind, its Kubernetes namespace and its name, and keys are ordered in this way.
-/

namespace ClusterOperator

/-! ## Services

The API server's objects that give a set of pods one address.
-/

/-- The container port that a service port leads to: by number, or by name. -/
inductive PortTarget where
  | number (port : Int)
  | name (port : String)
  deriving DecidableEq

/-- A port of a service. -/
structure ServicePort where
  name : Option String := none
  protocol : Option String := none
  port : Int := 0
  targetPort : Option PortTarget := none
  nodePort : Option Int := none
  rest : List (String × Json) := []
  deriving DecidableEq

/-- What is asked of a service. -/
structure ServiceSpec where
  type : Option String := none
  clusterIp : Option String := none
  selector : Option (StringMap String) := none
  ports : Option (List ServicePort) := none
  publishNotReadyAddresses : Option Bool := none
  sessionAffinity : Option String := none
  rest : List (String × Json) := []
  deriving DecidableEq

/-- A service. -/
structure Service where
  metadata : Metadata := {}
  spec : Option ServiceSpec := none
  status : Option Json := none
  deriving DecidableEq

/-! ## Deployments

The API server's objects that run a number of equal pods.
-/

/-- A reference to a field of the pod that a container runs in. -/
structure FieldReference where
  apiVersion : Option String := none
  fieldPath : String := ""
  deriving DecidableEq

/-- Where an environment variable gets its value from. -/
structure EnvSource where
  fieldRef : Option FieldReference := none
  rest : List (String × Json) := []
  deriving DecidableEq

/-- An environment variable of a container. -/
structure EnvVar where
  name : String := ""
  value : Option String := none
  valueFrom : Option EnvSource := none
  deriving DecidableEq

/-- A port of a container. -/
structure ContainerPort where
  name : Option String := none
  containerPort : Int := 0
  protocol : Option String := none
  rest : List (String × Json) := []
  deriving DecidableEq

/-- A container of a pod. -/
structure Container where
  name : String := ""
  image : Option String := none
  imagePullPolicy : Option String := none
  args : Option (List String) := none
  env : Option (List EnvVar) := none
  ports : Option (List ContainerPort) := none
  rest : List (String × Json) := []
  deriving DecidableEq

/-- What is asked of a pod. -/
structure PodSpec where
  restartPolicy : Option String := none
  dnsPolicy : Option String := none
  containers : List Container := []
  rest : List (String × Json) := []
  deriving DecidableEq

/-- What the pods of a deployment are made from. -/
structure PodTemplate where
  metadata : Option Metadata := none
  spec : Option PodSpec := none
  deriving DecidableEq

/-- The labels by which a deployment knows its pods. -/
structure LabelSelector where
  matchLabels : Option (StringMap String) := none
  rest : List (String × Json) := []
  deriving DecidableEq

/-- How a deployment replaces its pods. -/
structure DeploymentStrategy where
  type : Option String := none
  rest : List (String × Json) := []
  deriving DecidableEq

/-- What is asked of a deployment. -/
structure DeploymentSpec where
  replicas : Option Int := none
  selector : LabelSelector := {}
  revisionHistoryLimit : Option Int := none
  progressDeadlineSeconds : Option Int := none
  strategy : Option DeploymentStrategy := none
  template : PodTemplate := {}
  rest : List (String × Json) := []
  deriving DecidableEq

/-- What is observed about a deployment. -/
structure DeploymentStatus where
  replicas : Option Int := none
  readyReplicas : Option Int := none
  observedGeneration : Option Int := none
  rest : List (String × Json) := []
  deriving DecidableEq

/-- A deployment. -/
structure Deployment where
  metadata : Metadata := {}
  spec : Option DeploymentSpec := none
  status : Option DeploymentStatus := none
  deriving DecidableEq

/-- Whether a deployment has rolled out what was last asked of it, with at least the given number of
pods ready. What is not reported counts as zero. -/
def Deployment.isRolledOut (deployment : Deployment) (replicas : Int) : Bool :=
  let status := deployment.status.getD {}
  deployment.metadata.generation.getD 0 ≤ status.observedGeneration.getD 0 &&
    replicas ≤ status.readyReplicas.getD 0

/-! ## Children of either kind -/

/-- The kinds of child objects, in the order of their names. -/
inductive ChildKind where
  | deployment
  | service
  deriving DecidableEq

namespace ChildKind

/-- The name of a kind. -/
def text : ChildKind → String
  | deployment => "Deployment"
  | service => "Service"

theorem text_injective {left right : ChildKind} (same : left.text = right.text) : left = right := by
  cases left <;> cases right <;> first | rfl | simp [text] at same

/-- The kind with a name. -/
def ofText? (text : String) : Option ChildKind :=
  [deployment, service].find? fun kind => kind.text = text

end ChildKind

/-- The key of a child object. -/
structure ChildKey where
  kind : ChildKind
  object : ObjectKey
  deriving DecidableEq

namespace ChildKey

/-- The written form `Kind/namespace/name`. -/
def text (key : ChildKey) : String := key.kind.text ++ "/" ++ key.object.text

instance : Ord ChildKey where
  compare := compareLex (compareOn fun key => key.kind.text) (compareOn object)

instance : Std.TransOrd ChildKey :=
  inferInstanceAs <|
    Std.TransCmp (compareLex (compareOn fun key => key.kind.text) (compareOn object))

instance : Std.LawfulEqOrd ChildKey where
  eq_of_compare {left right} same := by
    obtain ⟨sameKind, sameObject⟩ := compareLex_eq_eq.mp same
    cases left; cases right
    cases ChildKind.text_injective (Std.LawfulEqOrd.eq_of_compare sameKind)
    cases Std.LawfulEqOrd.eq_of_compare sameObject
    rfl

end ChildKey

/-- A child object. -/
inductive Child where
  | service (object : Service)
  | deployment (object : Deployment)
  deriving DecidableEq

namespace Child

def kind : Child → ChildKind
  | service _ => .service
  | deployment _ => .deployment

def metadata : Child → Metadata
  | service object => object.metadata
  | deployment object => object.metadata

/-- The object with other metadata. -/
def withMetadata (metadata : Metadata) : Child → Child
  | service object => service { object with metadata }
  | deployment object => deployment { object with metadata }

/-- The key of the object; what is unset is empty. -/
def key (child : Child) : ChildKey := ⟨child.kind, child.metadata.storageKey⟩

/-- The deployment that the object is. -/
def deployment? : Child → Option Deployment
  | deployment object => some object
  | service _ => none

end Child

end ClusterOperator
