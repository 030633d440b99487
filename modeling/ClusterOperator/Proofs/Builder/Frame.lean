import ClusterOperator.Cluster.Defaults
import ClusterOperator.Proofs.Builder.Description
import ClusterOperator.Proofs.Builder.Keys

/-!
# What builders leave alone

An observed object may carry what others have put on it: labels and annotations, owners, containers
and environment variables, and fields that no builder sets. A builder changes what is its own, and
leaves all of this as it was and where it was.
-/

namespace ClusterOperator

/-! ### Lists in which one item is replaced -/

/-- The first item of a list that fits is replaced by a new one. Where none fits, the new one goes
to the end. -/
inductive Replaced {α : Type} (fits : α → Bool) (new : α) : Option α → List α → List α → Prop
  | inPlace {front back : List α} {held : α} (others : ∀ item ∈ front, ¬ fits item)
      (fit : fits held) :
      Replaced fits new (some held) (front ++ held :: back) (front ++ new :: back)
  | atEnd {items : List α} (others : ∀ item ∈ items, ¬ fits item) :
      Replaced fits new none items (items ++ [new])

namespace Replaced

variable {α : Type} {fits : α → Bool} {new item : α} {held : Option α} {before after : List α}

theorem cons (other : ¬ fits item) (replaced : Replaced fits new held before after) :
    Replaced fits new held (item :: before) (item :: after) := by
  cases replaced with
  | inPlace others fit =>
      rw [← List.cons_append, ← List.cons_append]
      exact .inPlace (List.forall_mem_cons.mpr ⟨other, others⟩) fit
  | atEnd others =>
      rw [← List.cons_append]
      exact .atEnd (List.forall_mem_cons.mpr ⟨other, others⟩)

/-- Of what does not fit, nothing is lost or moved. -/
theorem filter_eq {keep : α → Bool} (apart : ∀ item, fits item → keep item = false)
    (own : fits new) (replaced : Replaced fits new held before after) :
    after.filter keep = before.filter keep := by
  cases replaced with
  | inPlace others fit => simp [apart new own, apart _ fit]
  | atEnd others => simp [apart new own]

end Replaced

theorem replaced_upsertFirst {α : Type} (fits : α → Bool) (change : α → α) (blank : α)
    (items : List α) :
    ∃ held, Replaced fits (change (held.getD blank)) held items
      (upsertFirst fits change (change blank) items) := by
  induction items with
  | nil => exact ⟨none, .atEnd (List.forall_mem_nil _)⟩
  | cons item rest ih =>
      rw [upsertFirst]
      split
      · rename_i fit
        exact ⟨some item, @Replaced.inPlace α fits _ [] rest item (List.forall_mem_nil _) fit⟩
      · rename_i other
        rcases ih with ⟨held, replaced⟩
        exact ⟨held, replaced.cons other⟩

theorem EnvVar.filter_setAll {keep : EnvVar → Bool} {entries : List EnvVar} (env : List EnvVar)
    (own : ∀ entry ∈ entries, ∀ other : EnvVar, other.name = entry.name → keep other = false) :
    (setAll entries env).filter keep = env.filter keep := by
  induction entries generalizing env with
  | nil => rfl
  | cons entry rest ih =>
      rcases List.forall_mem_cons.mp own with ⟨ownEntry, ownRest⟩
      rcases replaced_upsertFirst (fun other => other.name = entry.name) (fun _ => entry) entry env
        with ⟨held, replaced⟩
      calc (setAll (entry :: rest) env).filter keep
          = (setAll rest (entry.set env)).filter keep := rfl
        _ = (entry.set env).filter keep := ih _ ownRest
        _ = env.filter keep :=
          replaced.filter_eq (fun other fit => ownEntry other (of_decide_eq_true fit))
            (decide_eq_true rfl)

/-! ### Labels and annotations -/

/-- A map has what is given for a key, and where nothing is given for it, what was observed. -/
def Overlaid (given : String → Option String) (observed shaped : Option (StringMap String)) :
    Prop :=
  ∃ map, shaped = some map ∧ ∀ key, map.get? key = (given key).or (observed.bind (·.get? key))

theorem overlaid_mergeOver {given : String → Option String} {overlay : StringMap String}
    (isGiven : ∀ key, overlay.get? key = given key) (observed : Option (StringMap String)) :
    Overlaid given observed (some (mergeOver observed [overlay])) := by
  refine ⟨_, rfl, fun key => ?_⟩
  change ((observed.getD ∅).overlay overlay).get? key = _
  rw [SortedMap.get?_overlay, isGiven]
  cases observed <;> rfl

namespace Cluster

/-- The annotation that all objects of a cluster get under a key: the last manifest of the cluster
itself is not among them. -/
def childAnnotation? (cluster : Cluster) (key : String) : Option String :=
  if key = clusterAnnotation then some cluster.name
  else if key = lastAppliedAnnotation then none
  else cluster.metadata.annotations.bind (·.get? key)

theorem get?_childAnnotations (cluster : Cluster) (key : String) :
    cluster.childAnnotations.get? key = cluster.childAnnotation? key := by
  unfold childAnnotations childAnnotation?
  rw [SortedMap.get?_insert, SortedMap.get?_filter]
  by_cases own : key = clusterAnnotation
  · rw [if_pos own, if_pos own.symm]
  rw [if_neg own, if_neg (Ne.symm own)]
  cases annotations : cluster.metadata.annotations with
  | none =>
      split <;> rfl
  | some map =>
      change (map.get? key).filter _ = if _ then none else map.get? key
      by_cases manifest : key = lastAppliedAnnotation
      · simp [manifest]
      · cases map.get? key <;> simp [manifest]

end Cluster

namespace Builder

/-- The labels that a builder gives, whatever the labels of the cluster are. -/
def standardLabels (cluster : Cluster) (builder : Builder) : List (String × String) :=
  (if builder.isHeadless then [(Label.headless, "true")] else []) ++
    [(Label.name, "temporal"), (Label.instanceName, cluster.name),
      (Label.component, builder.component.text), (Label.version, builder.version cluster),
      (Label.managedBy, "temporal-operator"), (Label.partOf, "temporal")]

/-- The label that a builder gives under a key. The labels of the cluster are handed on, but for
those with a value that is fixed. -/
def label? (cluster : Cluster) (builder : Builder) (key : String) : Option String :=
  (SortedMap.findEntry key (builder.standardLabels cluster)).or
    (cluster.metadata.labels.bind (·.get? key))

theorem labels_eq (cluster : Cluster) (builder : Builder) :
    builder.labels cluster =
      (cluster.childLabels builder.component.text (builder.version cluster)).overlay
        (if builder.isHeadless then headlessLabels else ∅) := by
  have unmarked (labels : StringMap String) : labels = labels.overlay ∅ := rfl
  cases builder with
  | headlessService role => rfl
  | _ => exact unmarked _

theorem get?_labels (cluster : Cluster) (builder : Builder) (key : String) :
    (builder.labels cluster).get? key = builder.label? cluster key := by
  have own : (cluster.metadata.labels.getD ∅).get? key =
      cluster.metadata.labels.bind (·.get? key) := by
    cases cluster.metadata.labels <;> rfl
  have mark : (if builder.isHeadless then headlessLabels else ∅).get? key =
      SortedMap.findEntry key (if builder.isHeadless then [(Label.headless, "true")] else []) := by
    cases builder.isHeadless with
    | false => rfl
    | true => exact SortedMap.get?_ofList (by simp) key
  rw [labels_eq, SortedMap.get?_overlay, mark, Cluster.childLabels, SortedMap.get?_overlay, own,
    SortedMap.get?_ofList (by simp; decide), label?, standardLabels, SortedMap.findEntry_append,
    Option.or_assoc]

end Builder

/-! ### What is left alone -/

/-- How a builder changes the metadata of an object. -/
structure Metadata.Reshaped (cluster : Cluster) (builder : Builder) (observed shaped : Metadata) :
    Prop where
  labels : Overlaid (builder.label? cluster) observed.labels shaped.labels
  annotations : Overlaid cluster.childAnnotation? observed.annotations shaped.annotations
  /-- The cluster owns the object, and other owners go on owning it. -/
  owners : ∃ owner held owners, cluster.controllerReference? = some owner ∧
    shaped.ownerReferences = some owners ∧
    Replaced (·.uid = owner.uid) owner held (observed.ownerReferences.getD []) owners
  rest : shaped.identity = observed.identity

/-- How a builder changes the spec of a service. -/
structure ServiceSpec.Reshaped (builder : Builder) (observed shaped : ServiceSpec) : Prop where
  /-- Only a headless service is told what address to have. -/
  address : builder.isHeadless = false → shaped.clusterIp = observed.clusterIp ∧
    shaped.publishNotReadyAddresses = observed.publishNotReadyAddresses
  rest : shaped =
    { observed with
      type := shaped.type
      clusterIp := shaped.clusterIp
      selector := shaped.selector
      ports := shaped.ports
      publishNotReadyAddresses := shaped.publishNotReadyAddresses }

/-- How a builder changes its container. -/
structure Container.Reshaped (builder : Builder) (observed shaped : Container) : Prop where
  env : (shaped.env.getD []).filter (·.name ∉ builder.envNames) =
    (observed.env.getD []).filter (·.name ∉ builder.envNames)
  /-- Of the ports of the admin tools nothing is said. -/
  ports : builder = .adminToolsDeployment → shaped.ports = observed.ports
  rest : shaped =
    { observed with image := shaped.image, env := shaped.env, ports := shaped.ports }

/-- How a builder changes the template of its pods. -/
structure PodTemplate.Reshaped (cluster : Cluster) (builder : Builder)
    (observed shaped : PodTemplate) : Prop where
  metadata : ∃ labels,
    Overlaid (builder.label? cluster) (observed.metadata.getD {}).labels labels ∧
    shaped.metadata = some { observed.metadata.getD {} with labels }
  containers : ∃ container held containers,
    shaped.spec = some { observed.spec.getD {} with containers } ∧
    Replaced (·.name = builder.containerName) container held (observed.spec.getD {}).containers
      containers ∧
    Container.Reshaped builder (held.getD { name := builder.containerName }) container

/-- How a builder changes the spec of a deployment. -/
structure DeploymentSpec.Reshaped (cluster : Cluster) (builder : Builder)
    (observed shaped : DeploymentSpec) : Prop where
  template : PodTemplate.Reshaped cluster builder observed.template shaped.template
  rest : shaped =
    { observed with
      replicas := shaped.replicas, selector := shaped.selector, template := shaped.template }

/-- How a builder changes an object. -/
inductive Child.Reshaped (cluster : Cluster) (builder : Builder) : Child → Child → Prop
  | service {observed : Service} {metadata : Metadata} {spec : ServiceSpec}
      (labelled : Metadata.Reshaped cluster builder observed.metadata metadata)
      (exposed : ServiceSpec.Reshaped builder (observed.spec.getD {}) spec) :
      Reshaped cluster builder (.service observed)
        (.service { observed with metadata, spec := some spec })
  | deployment {observed : Deployment} {metadata : Metadata} {spec : DeploymentSpec}
      (labelled : Metadata.Reshaped cluster builder observed.metadata metadata)
      (deployed : DeploymentSpec.Reshaped cluster builder (observed.spec.getD {}) spec) :
      Reshaped cluster builder (.deployment observed)
        (.deployment { observed with metadata, spec := some spec })

variable {cluster : Cluster} {builder : Builder}

theorem Cluster.reshaped_of_adopt {metadata adopted : Metadata}
    (adopts : cluster.adopt (builder.labels cluster) metadata = .ok adopted) :
    Metadata.Reshaped cluster builder metadata adopted := by
  have rest := identity_adopt adopts
  rcases control_eq_ok adopts with ⟨owner, identity, _, rfl⟩
  rcases replaced_upsertFirst (fun other : OwnerReference => other.uid = owner.uid)
    (fun _ => owner) owner (metadata.ownerReferences.getD []) with ⟨held, replaced⟩
  exact
    { labels := overlaid_mergeOver (builder.get?_labels cluster) _
      annotations := overlaid_mergeOver cluster.get?_childAnnotations _
      owners := ⟨owner, held, _, identity, rfl, replaced⟩
      rest }

theorem Exposure.reshaped_applySpec {exposure : Exposure}
    (exposes : builder.Exposes cluster exposure) (spec : ServiceSpec) :
    ServiceSpec.Reshaped builder spec (exposure.applySpec cluster spec) := by
  have headless := exposes.isOf.headless
  unfold applySpec
  split
  · rename_i own
    have never (addressed : builder.isHeadless = false) : False := by
      rw [headless, addressed] at own
      cases own
    exact
      { address := fun addressed => (never addressed).elim
        rest := rfl }
  · exact
      { address := fun _ => ⟨rfl, rfl⟩
        rest := rfl }

namespace Workload

variable {workload : Workload}

theorem reshaped_applyContainer (deploys : builder.Deploys cluster workload)
    (container : Container) :
    Container.Reshaped builder container (workload.applyContainer container) where
  env := by
    refine EnvVar.filter_setAll (container.env.getD []) fun entry there other same => ?_
    have own : entry.name ∈ builder.envNames :=
      deploys.isOf.envNames ▸ List.mem_map_of_mem there
    simp [same, own]
  ports := by
    rintro rfl
    cases deploys with
    | adminTools described =>
        rcases adminTools_eq_ok described with ⟨address, rfl⟩
        rfl
  rest := rfl

theorem reshaped_applySpec (deploys : builder.Deploys cluster workload) (spec : DeploymentSpec) :
    DeploymentSpec.Reshaped cluster builder spec (workload.applySpec cluster spec) where
  template := by
    have labelled (key : String) :
        (cluster.childLabels workload.component.text workload.version).get? key =
          builder.label? cluster key := by
      rw [deploys.isOf.labels, builder.get?_labels]
    have labels := overlaid_mergeOver labelled (spec.template.metadata.getD {}).labels
    rcases replaced_upsertFirst
      (fun container : Container => container.name = workload.containerName)
      workload.applyContainer { name := workload.containerName }
      (spec.template.spec.getD {}).containers with ⟨held, replaced⟩
    refine { metadata := ⟨_, labels, rfl⟩, containers := ?_ }
    rw [← deploys.isOf.containerName]
    exact ⟨_, held, _, rfl, replaced, reshaped_applyContainer deploys _⟩
  rest := rfl

end Workload

namespace Builder

variable {observed shaped : Child}

theorem Exposes.reshaped {exposure : Exposure} {service result : Service}
    (exposes : builder.Exposes cluster exposure)
    (applied : exposure.apply cluster service = .ok result) :
    Child.Reshaped cluster builder (.service service) (.service result) := by
  rcases Exposure.apply_eq_ok applied with ⟨metadata, adopts, rfl⟩
  rw [exposes.isOf.labels] at adopts
  exact .service (Cluster.reshaped_of_adopt adopts) (Exposure.reshaped_applySpec exposes _)

theorem Deploys.reshaped {workload : Workload} {deployment result : Deployment}
    (deploys : builder.Deploys cluster workload)
    (applied : workload.apply cluster deployment = .ok result) :
    Child.Reshaped cluster builder (.deployment deployment) (.deployment result) := by
  rcases Workload.apply_eq_ok applied with ⟨metadata, adopts, rfl⟩
  rw [deploys.isOf.labels] at adopts
  exact .deployment (Cluster.reshaped_of_adopt adopts) (Workload.reshaped_applySpec deploys _)

end Builder

namespace Child

variable {observed shaped : Child}

/-- The annotation of an object under a key. -/
def annotation? (child : Child) (key : String) : Option String :=
  child.metadata.annotations.bind (·.get? key)

theorem Reshaped.metadata (reshaped : Reshaped cluster builder observed shaped) :
    Metadata.Reshaped cluster builder observed.metadata shaped.metadata := by
  cases reshaped with
  | service labelled _ => exact labelled
  | deployment labelled _ => exact labelled

theorem Reshaped.annotation?_eq (reshaped : Reshaped cluster builder observed shaped)
    (key : String) :
    shaped.annotation? key = (cluster.childAnnotation? key).or (observed.annotation? key) := by
  rcases reshaped.metadata.annotations with ⟨map, isMap, get?_eq⟩
  rw [annotation?, isMap]
  exact get?_eq key

end Child

namespace Builder

variable {observed shaped : Child}

theorem annotation?_skeleton (key : String) :
    (builder.skeleton cluster).annotation? key = cluster.childAnnotation? key := by
  rw [Child.annotation?, metadata_skeleton]
  exact cluster.get?_childAnnotations key

/-- A builder changes what is its own on an object. What others have put on the object stays, and
the last manifest of the cluster does not come to the object. -/
theorem reshaped_of_update (updated : builder.update cluster observed = .ok shaped) :
    Child.Reshaped cluster builder observed shaped ∧
      shaped.annotation? lastAppliedAnnotation = observed.annotation? lastAppliedAnnotation ∧
      (builder.skeleton cluster).annotation? lastAppliedAnnotation = none := by
  have reshaped : Child.Reshaped cluster builder observed shaped := by
    rcases update_cases updated with
      ⟨exposure, held, result, exposes, rfl, rfl, applied⟩ |
        ⟨workload, held, result, deploys, rfl, rfl, applied⟩
    · exact exposes.reshaped applied
    · exact deploys.reshaped applied
  have manifest : cluster.childAnnotation? lastAppliedAnnotation = none := by
    rw [Cluster.childAnnotation?, if_neg (by decide), if_pos rfl]
  refine ⟨reshaped, ?_, ?_⟩
  · rw [reshaped.annotation?_eq, manifest, Option.none_or]
  · rw [annotation?_skeleton, manifest]

end Builder

/-- A cluster with a label that builders give too, and with a last manifest. -/
def Cluster.labelled : Cluster where
  metadata :=
    { name := some "prod"
      ns := some "apps"
      uid := some "1"
      labels := some (.ofList [(Label.version, "latest"), ("team", "core")])
      annotations :=
        some ((SortedMap.ofList [("note", "seen")]).insert lastAppliedAnnotation "manifest") }
  spec := ClusterSpec.withDefaults {}
  status := none

/-- A deployment with labels, an owner, a container and environment variables of others, and with
fields that no builder sets. -/
def Deployment.meshed : Deployment where
  metadata :=
    { name := some "prod-history"
      ns := some "apps"
      labels := some (.ofList [(Label.version, "old"), ("mesh", "on")])
      ownerReferences := some [{ uid := "2", name := "mesh" }, { uid := "1", name := "old" }] }
  spec := some
    { revisionHistoryLimit := some 3
      template :=
        { metadata := some { annotations := some (.ofList [("inject", "yes")]) }
          spec := some
            { containers :=
                [{ name := "proxy" },
                  { name := "temporal",
                    args := some ["serve"]
                    env := some
                      [.plain "MESH" "on", .plain "SERVICES" "all", .plain "MESH" "off"]
                    rest := [("tty", .bool true)] },
                  { name := "temporal", image := some "temporal:old" }]
              rest := [("serviceAccountName", .string "mesh")] } }
      rest := [("minReadySeconds", .integer 5)] }
  status := some { replicas := some 2, rest := [("updatedReplicas", .integer 1)] }

/-- A service that has been given addresses. -/
def Service.allocated : Service where
  metadata := { name := some "prod-frontend", ns := some "apps" }
  spec := some
    { clusterIp := some "10.0.0.7", rest := [("clusterIPs", .array [.string "10.0.0.7"])] }
  status := some (.object [("loadBalancer", .object [])])

/-- The deployment is brought into shape around what others have put on it, and the service keeps
its addresses. -/
theorem Builder.reshaped_of_update_of_meshed :
    (∃ shaped : Deployment,
      (roleDeployment .history).update .labelled (.deployment .meshed) =
        .ok (.deployment shaped) ∧
      (Child.Reshaped .labelled (roleDeployment .history) (.deployment .meshed)
          (.deployment shaped) ∧
        (Child.deployment shaped).annotation? lastAppliedAnnotation =
          (Child.deployment .meshed).annotation? lastAppliedAnnotation ∧
        ((roleDeployment .history).skeleton .labelled).annotation? lastAppliedAnnotation = none) ∧
      (Child.deployment shaped).annotation? "note" = some "seen" ∧
      shaped.status = Deployment.meshed.status ∧
      (shaped.spec.bind fun spec => spec.template.spec).map PodSpec.rest =
        some [("serviceAccountName", .string "mesh")]) ∧
    ∃ shaped : Service,
      frontendService.update .labelled (.service .allocated) = .ok (.service shaped) ∧
      (Child.Reshaped .labelled frontendService (.service .allocated) (.service shaped) ∧
        (Child.service shaped).annotation? lastAppliedAnnotation =
          (Child.service .allocated).annotation? lastAppliedAnnotation ∧
        (frontendService.skeleton .labelled).annotation? lastAppliedAnnotation = none) ∧
      shaped.status = Service.allocated.status ∧
      shaped.spec.map ServiceSpec.clusterIp = some (some "10.0.0.7") ∧
      shaped.spec.map ServiceSpec.rest = some [("clusterIPs", .array [.string "10.0.0.7"])] := by
  constructor
  · obtain ⟨shaped, updated⟩ :
        ∃ shaped, (roleDeployment .history).update .labelled (.deployment .meshed) =
          .ok (.deployment shaped) :=
      ⟨_, rfl⟩
    refine ⟨shaped, updated, reshaped_of_update updated, ?_⟩
    cases updated
    exact ⟨rfl, rfl, rfl⟩
  · obtain ⟨shaped, updated⟩ :
        ∃ shaped, frontendService.update .labelled (.service .allocated) = .ok (.service shaped) :=
      ⟨_, rfl⟩
    refine ⟨shaped, updated, reshaped_of_update updated, ?_⟩
    cases updated
    exact ⟨rfl, rfl, rfl⟩

end ClusterOperator
