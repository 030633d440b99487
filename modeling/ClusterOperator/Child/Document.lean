import ClusterOperator.Child.Basic
import ClusterOperator.Object.Document

/-!
# Child objects in JSON
-/

namespace ClusterOperator

/-- Refuses a member that has another value than the one expected; it may be absent. -/
def expectText (name expected : String) (members : List (String × Json)) : Option Unit :=
  match Json.lookup name members with
  | none => some ()
  | some (.string text) => if text = expected then some () else none
  | some _ => none

namespace PortTarget

def shape : Json.Shape := .numberOrText "enum IntOrString"

def ofJson? : Json → Option PortTarget
  | .string port => some (name port)
  | json => (json.signed? 32).map number

def toJson : PortTarget → Json
  | number port => .integer port
  | name port => .string port

end PortTarget

namespace ServicePort

/-- The members that are kept as they are. -/
def keptNames : List String := ["appProtocol"]

def shape : Json.Shape :=
  .record .lenient "ServicePort" <|
    [.optional "name" .text, .optional "protocol" .text, .optional "port" (.signed 32),
      .optional "targetPort" PortTarget.shape, .optional "nodePort" (.signed 32)] ++
    Json.Member.kept keptNames

def ofJson? (json : Json) : Option ServicePort := do
  let members ← json.lenientMembers?
  pure
    { name := ← Json.optional Json.string? "name" members
      protocol := ← Json.optional Json.string? "protocol" members
      port := ← Json.orElse 0 (Json.signed? 32) "port" members
      targetPort := ← Json.optional PortTarget.ofJson? "targetPort" members
      nodePort := ← Json.optional (Json.signed? 32) "nodePort" members
      rest := Json.kept keptNames members }

def toJson (port : ServicePort) : Json :=
  .object <|
    Json.optionalField "name" .string port.name ++
    Json.optionalField "nodePort" .integer port.nodePort ++
    [("port", .integer port.port)] ++
    Json.optionalField "protocol" .string port.protocol ++
    Json.optionalField "targetPort" PortTarget.toJson port.targetPort ++
    Json.kept keptNames port.rest

end ServicePort

namespace ServiceSpec

/-- The members that are kept as they are. -/
def keptNames : List String :=
  ["allocateLoadBalancerNodePorts", "clusterIPs", "externalIPs", "externalName",
    "externalTrafficPolicy", "healthCheckNodePort", "internalTrafficPolicy", "ipFamilies",
    "ipFamilyPolicy", "loadBalancerClass", "loadBalancerIP", "loadBalancerSourceRanges",
    "sessionAffinityConfig", "trafficDistribution"]

def shape : Json.Shape :=
  .record .lenient "ServiceSpec" <|
    [.optional "type" .text, .optional "clusterIP" .text, .optional "selector" (.map .text),
      .optional "ports" (.list ServicePort.shape), .optional "publishNotReadyAddresses" .bool,
      .optional "sessionAffinity" .text] ++
    Json.Member.kept keptNames

def ofJson? (json : Json) : Option ServiceSpec := do
  let members ← json.lenientMembers?
  pure
    { type := ← Json.optional Json.string? "type" members
      clusterIp := ← Json.optional Json.string? "clusterIP" members
      selector := ← Json.optional (Json.mapOf? Json.string?) "selector" members
      ports := ← Json.optional (Json.listOf? ServicePort.ofJson?) "ports" members
      publishNotReadyAddresses := ← Json.optional Json.bool? "publishNotReadyAddresses" members
      sessionAffinity := ← Json.optional Json.string? "sessionAffinity" members
      rest := Json.kept keptNames members }

def toJson (spec : ServiceSpec) : Json :=
  .object <|
    Json.optionalField "clusterIP" .string spec.clusterIp ++
    Json.optionalField "ports" (fun ports => .array (ports.map ServicePort.toJson)) spec.ports ++
    Json.optionalField "publishNotReadyAddresses" .bool spec.publishNotReadyAddresses ++
    Json.optionalField "selector" Json.ofTexts spec.selector ++
    Json.optionalField "sessionAffinity" .string spec.sessionAffinity ++
    Json.optionalField "type" .string spec.type ++
    Json.kept keptNames spec.rest

end ServiceSpec

namespace Service

/-- The group and version of services. -/
def apiVersion : String := "v1"

def shape : Json.Shape :=
  .record .lenient "Service"
    [.defaulted "apiVersion" (.exactly apiVersion),
      .defaulted "kind" (.exactly ChildKind.service.text), .optional "metadata" Metadata.shape,
      .optional "spec" ServiceSpec.shape, .optional "status" .anything]

def ofJson? (json : Json) : Option Service := do
  let members ← json.lenientMembers?
  expectText "apiVersion" apiVersion members
  expectText "kind" ChildKind.service.text members
  pure
    { metadata := ← Json.orElse {} Metadata.ofJson? "metadata" members
      spec := ← Json.optional ServiceSpec.ofJson? "spec" members
      status := ← Json.optional some "status" members }

def toJson (service : Service) : Json :=
  .object <|
    [("apiVersion", .string apiVersion), ("kind", .string ChildKind.service.text),
      ("metadata", service.metadata.toJson)] ++
    Json.optionalField "spec" ServiceSpec.toJson service.spec ++
    Json.optionalField "status" id service.status

end Service

namespace FieldReference

def shape : Json.Shape :=
  .record .lenient "ObjectFieldSelector"
    [.optional "apiVersion" .text, .optional "fieldPath" .text]

def ofJson? (json : Json) : Option FieldReference := do
  let members ← json.lenientMembers?
  pure
    { apiVersion := ← Json.optional Json.string? "apiVersion" members
      fieldPath := ← Json.orElse "" Json.string? "fieldPath" members }

def toJson (reference : FieldReference) : Json :=
  .object <|
    Json.optionalField "apiVersion" .string reference.apiVersion ++
    [("fieldPath", .string reference.fieldPath)]

end FieldReference

namespace EnvSource

/-- The members that are kept as they are. -/
def keptNames : List String := ["configMapKeyRef", "resourceFieldRef", "secretKeyRef"]

def shape : Json.Shape :=
  .record .lenient "EnvVarSource" <|
    [.optional "fieldRef" FieldReference.shape] ++
    Json.Member.kept keptNames

def ofJson? (json : Json) : Option EnvSource := do
  let members ← json.lenientMembers?
  pure
    { fieldRef := ← Json.optional FieldReference.ofJson? "fieldRef" members
      rest := Json.kept keptNames members }

def toJson (source : EnvSource) : Json :=
  .object <|
    Json.optionalField "fieldRef" FieldReference.toJson source.fieldRef ++
    Json.kept keptNames source.rest

end EnvSource

namespace EnvVar

def shape : Json.Shape :=
  .record .lenient "EnvVar"
    [.optional "name" .text, .optional "value" .text, .optional "valueFrom" EnvSource.shape]

def ofJson? (json : Json) : Option EnvVar := do
  let members ← json.lenientMembers?
  pure
    { name := ← Json.orElse "" Json.string? "name" members
      value := ← Json.optional Json.string? "value" members
      valueFrom := ← Json.optional EnvSource.ofJson? "valueFrom" members }

def toJson (entry : EnvVar) : Json :=
  .object <|
    [("name", .string entry.name)] ++
    Json.optionalField "value" .string entry.value ++
    Json.optionalField "valueFrom" EnvSource.toJson entry.valueFrom

end EnvVar

namespace ContainerPort

/-- The members that are kept as they are. -/
def keptNames : List String := ["hostIP", "hostPort"]

def shape : Json.Shape :=
  .record .lenient "ContainerPort" <|
    [.optional "name" .text, .optional "containerPort" (.signed 32), .optional "protocol" .text] ++
    Json.Member.kept keptNames

def ofJson? (json : Json) : Option ContainerPort := do
  let members ← json.lenientMembers?
  pure
    { name := ← Json.optional Json.string? "name" members
      containerPort := ← Json.orElse 0 (Json.signed? 32) "containerPort" members
      protocol := ← Json.optional Json.string? "protocol" members
      rest := Json.kept keptNames members }

def toJson (port : ContainerPort) : Json :=
  .object <|
    [("containerPort", .integer port.containerPort)] ++
    Json.optionalField "name" .string port.name ++
    Json.optionalField "protocol" .string port.protocol ++
    Json.kept keptNames port.rest

end ContainerPort

namespace Container

/-- The members that are kept as they are. -/
def keptNames : List String :=
  ["command", "envFrom", "lifecycle", "livenessProbe", "readinessProbe", "resizePolicy",
    "resources", "restartPolicy", "securityContext", "startupProbe", "stdin", "stdinOnce",
    "terminationMessagePath", "terminationMessagePolicy", "tty", "volumeDevices", "volumeMounts",
    "workingDir"]

def shape : Json.Shape :=
  .record .lenient "Container" <|
    [.optional "name" .text, .optional "image" .text, .optional "imagePullPolicy" .text,
      .optional "args" (.list .text), .optional "env" (.list EnvVar.shape),
      .optional "ports" (.list ContainerPort.shape)] ++
    Json.Member.kept keptNames

def ofJson? (json : Json) : Option Container := do
  let members ← json.lenientMembers?
  pure
    { name := ← Json.orElse "" Json.string? "name" members
      image := ← Json.optional Json.string? "image" members
      imagePullPolicy := ← Json.optional Json.string? "imagePullPolicy" members
      args := ← Json.optional (Json.listOf? Json.string?) "args" members
      env := ← Json.optional (Json.listOf? EnvVar.ofJson?) "env" members
      ports := ← Json.optional (Json.listOf? ContainerPort.ofJson?) "ports" members
      rest := Json.kept keptNames members }

def toJson (container : Container) : Json :=
  .object <|
    Json.optionalField "args" Json.ofTextList container.args ++
    Json.optionalField "env" (fun env => .array (env.map EnvVar.toJson)) container.env ++
    Json.optionalField "image" .string container.image ++
    Json.optionalField "imagePullPolicy" .string container.imagePullPolicy ++
    [("name", .string container.name)] ++
    Json.optionalField "ports" (fun ports => .array (ports.map ContainerPort.toJson))
      container.ports ++
    Json.kept keptNames container.rest

end Container

namespace PodSpec

/-- The members that are kept as they are. -/
def keptNames : List String :=
  ["activeDeadlineSeconds", "affinity", "automountServiceAccountToken", "dnsConfig",
    "enableServiceLinks", "ephemeralContainers", "hostAliases", "hostIPC", "hostNetwork", "hostPID",
    "hostUsers", "hostname", "imagePullSecrets", "initContainers", "nodeName", "nodeSelector", "os",
    "overhead", "preemptionPolicy", "priority", "priorityClassName", "readinessGates",
    "resourceClaims", "resources", "runtimeClassName", "schedulerName", "schedulingGates",
    "securityContext", "serviceAccount", "serviceAccountName", "setHostnameAsFQDN",
    "shareProcessNamespace", "subdomain", "terminationGracePeriodSeconds", "tolerations",
    "topologySpreadConstraints", "volumes"]

def shape : Json.Shape :=
  .record .lenient "PodSpec" <|
    [.optional "restartPolicy" .text, .optional "dnsPolicy" .text,
      .optional "containers" (.list Container.shape)] ++
    Json.Member.kept keptNames

def ofJson? (json : Json) : Option PodSpec := do
  let members ← json.lenientMembers?
  pure
    { restartPolicy := ← Json.optional Json.string? "restartPolicy" members
      dnsPolicy := ← Json.optional Json.string? "dnsPolicy" members
      containers := ← Json.orElse [] (Json.listOf? Container.ofJson?) "containers" members
      rest := Json.kept keptNames members }

def toJson (spec : PodSpec) : Json :=
  .object <|
    [("containers", .array (spec.containers.map Container.toJson))] ++
    Json.optionalField "dnsPolicy" .string spec.dnsPolicy ++
    Json.optionalField "restartPolicy" .string spec.restartPolicy ++
    Json.kept keptNames spec.rest

end PodSpec

namespace PodTemplate

def shape : Json.Shape :=
  .record .lenient "PodTemplateSpec"
    [.optional "metadata" Metadata.shape, .optional "spec" PodSpec.shape]

def ofJson? (json : Json) : Option PodTemplate := do
  let members ← json.lenientMembers?
  pure
    { metadata := ← Json.optional Metadata.ofJson? "metadata" members
      spec := ← Json.optional PodSpec.ofJson? "spec" members }

def toJson (template : PodTemplate) : Json :=
  .object <|
    Json.optionalField "metadata" Metadata.toJson template.metadata ++
    Json.optionalField "spec" PodSpec.toJson template.spec

end PodTemplate

namespace LabelSelector

/-- The members that are kept as they are. -/
def keptNames : List String := ["matchExpressions"]

def shape : Json.Shape :=
  .record .lenient "LabelSelector" <|
    [.optional "matchLabels" (.map .text)] ++
    Json.Member.kept keptNames

def ofJson? (json : Json) : Option LabelSelector := do
  let members ← json.lenientMembers?
  pure
    { matchLabels := ← Json.optional (Json.mapOf? Json.string?) "matchLabels" members
      rest := Json.kept keptNames members }

def toJson (selector : LabelSelector) : Json :=
  .object <|
    Json.optionalField "matchLabels" Json.ofTexts selector.matchLabels ++
    Json.kept keptNames selector.rest

end LabelSelector

namespace DeploymentStrategy

/-- The members that are kept as they are. -/
def keptNames : List String := ["rollingUpdate"]

def shape : Json.Shape :=
  .record .lenient "DeploymentStrategy" <|
    [.optional "type" .text] ++
    Json.Member.kept keptNames

def ofJson? (json : Json) : Option DeploymentStrategy := do
  let members ← json.lenientMembers?
  pure
    { type := ← Json.optional Json.string? "type" members
      rest := Json.kept keptNames members }

def toJson (strategy : DeploymentStrategy) : Json :=
  .object <|
    Json.optionalField "type" .string strategy.type ++
    Json.kept keptNames strategy.rest

end DeploymentStrategy

namespace DeploymentSpec

/-- The members that are kept as they are. -/
def keptNames : List String := ["minReadySeconds", "paused"]

def shape : Json.Shape :=
  .record .lenient "DeploymentSpec" <|
    [.optional "replicas" (.signed 32), .optional "selector" LabelSelector.shape,
      .optional "revisionHistoryLimit" (.signed 32),
      .optional "progressDeadlineSeconds" (.signed 32),
      .optional "strategy" DeploymentStrategy.shape, .optional "template" PodTemplate.shape] ++
    Json.Member.kept keptNames

def ofJson? (json : Json) : Option DeploymentSpec := do
  let members ← json.lenientMembers?
  pure
    { replicas := ← Json.optional (Json.signed? 32) "replicas" members
      selector := ← Json.orElse {} LabelSelector.ofJson? "selector" members
      revisionHistoryLimit := ← Json.optional (Json.signed? 32) "revisionHistoryLimit" members
      progressDeadlineSeconds :=
        ← Json.optional (Json.signed? 32) "progressDeadlineSeconds" members
      strategy := ← Json.optional DeploymentStrategy.ofJson? "strategy" members
      template := ← Json.orElse {} PodTemplate.ofJson? "template" members
      rest := Json.kept keptNames members }

def toJson (spec : DeploymentSpec) : Json :=
  .object <|
    Json.optionalField "progressDeadlineSeconds" .integer spec.progressDeadlineSeconds ++
    Json.optionalField "replicas" .integer spec.replicas ++
    Json.optionalField "revisionHistoryLimit" .integer spec.revisionHistoryLimit ++
    [("selector", spec.selector.toJson)] ++
    Json.optionalField "strategy" DeploymentStrategy.toJson spec.strategy ++
    [("template", spec.template.toJson)] ++
    Json.kept keptNames spec.rest

end DeploymentSpec

namespace DeploymentStatus

/-- The members that are kept as they are. -/
def keptNames : List String :=
  ["availableReplicas", "collisionCount", "conditions", "unavailableReplicas", "updatedReplicas"]

def shape : Json.Shape :=
  .record .lenient "DeploymentStatus" <|
    [.optional "replicas" (.signed 32), .optional "readyReplicas" (.signed 32),
      .optional "observedGeneration" (.signed 64)] ++
    Json.Member.kept keptNames

def ofJson? (json : Json) : Option DeploymentStatus := do
  let members ← json.lenientMembers?
  pure
    { replicas := ← Json.optional (Json.signed? 32) "replicas" members
      readyReplicas := ← Json.optional (Json.signed? 32) "readyReplicas" members
      observedGeneration := ← Json.optional (Json.signed? 64) "observedGeneration" members
      rest := Json.kept keptNames members }

def toJson (status : DeploymentStatus) : Json :=
  .object <|
    Json.optionalField "observedGeneration" .integer status.observedGeneration ++
    Json.optionalField "readyReplicas" .integer status.readyReplicas ++
    Json.optionalField "replicas" .integer status.replicas ++
    Json.kept keptNames status.rest

end DeploymentStatus

namespace Deployment

/-- The group and version of deployments. -/
def apiVersion : String := "apps/v1"

def shape : Json.Shape :=
  .record .lenient "Deployment"
    [.defaulted "apiVersion" (.exactly apiVersion),
      .defaulted "kind" (.exactly ChildKind.deployment.text), .optional "metadata" Metadata.shape,
      .optional "spec" DeploymentSpec.shape, .optional "status" DeploymentStatus.shape]

def ofJson? (json : Json) : Option Deployment := do
  let members ← json.lenientMembers?
  expectText "apiVersion" apiVersion members
  expectText "kind" ChildKind.deployment.text members
  pure
    { metadata := ← Json.orElse {} Metadata.ofJson? "metadata" members
      spec := ← Json.optional DeploymentSpec.ofJson? "spec" members
      status := ← Json.optional DeploymentStatus.ofJson? "status" members }

def toJson (deployment : Deployment) : Json :=
  .object <|
    [("apiVersion", .string apiVersion), ("kind", .string ChildKind.deployment.text),
      ("metadata", deployment.metadata.toJson)] ++
    Json.optionalField "spec" DeploymentSpec.toJson deployment.spec ++
    Json.optionalField "status" DeploymentStatus.toJson deployment.status

end Deployment

namespace Child

def shape : ChildKind → Json.Shape
  | .service => Service.shape
  | .deployment => Deployment.shape

def ofJson? (kind : ChildKind) (json : Json) : Option Child :=
  match kind with
  | .service => (Service.ofJson? json).map service
  | .deployment => (Deployment.ofJson? json).map deployment

def toJson : Child → Json
  | service object => object.toJson
  | deployment object => object.toJson

end Child

end ClusterOperator
