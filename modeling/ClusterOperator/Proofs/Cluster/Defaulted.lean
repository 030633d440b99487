import ClusterOperator.Cluster.Defaults
import ClusterOperator.Proofs.Cluster.Tending

/-!
# What the API server fills in

An object that is read back differs from the one that was written in fields that the API server
stamps or fills in. `asked` takes them off an object. Whether an object is in shape can be told from
what is left, so an object in shape that is read back is found to be in shape, and is not written
again.
-/

namespace ClusterOperator

open Program

/-! ### What is asked for -/

/-- The metadata without version, identity and generation, and without the API server's notes. -/
def Metadata.asked (metadata : Metadata) : Metadata :=
  { metadata.stamped none none none with rest := [] }

/-- The container without its pull policy, and without what no builder says of a container. -/
def Container.asked (container : Container) : Container :=
  { container with imagePullPolicy := none, rest := [] }

/-- The pod without its policies, and without what no builder says of a pod. -/
def PodSpec.asked (pod : PodSpec) : PodSpec where
  restartPolicy := none
  dnsPolicy := none
  containers := pod.containers.map Container.asked
  rest := []

/-- The spec without the limits that have defaults, and without what no builder says of a
deployment. -/
def DeploymentSpec.asked (spec : DeploymentSpec) : DeploymentSpec :=
  { spec with
    revisionHistoryLimit := none
    progressDeadlineSeconds := none
    template := { spec.template with spec := spec.template.spec.map PodSpec.asked }
    rest := [] }

/-- The spec without what no builder says of a service. -/
def ServiceSpec.asked (spec : ServiceSpec) : ServiceSpec := { spec with rest := [] }

/-- The object without what the API server stamps or fills in. -/
def Child.asked : Child → Child
  | .service object =>
      .service
        { metadata := object.metadata.asked
          spec := object.spec.map ServiceSpec.asked
          status := none }
  | .deployment object =>
      .deployment
        { metadata := object.metadata.asked
          spec := object.spec.map DeploymentSpec.asked
          status := none }

/-! ### Metadata -/

/-- The metadata with other notes of the API server. -/
def Metadata.withRest (rest : List (String × Json)) (metadata : Metadata) : Metadata :=
  { metadata with rest }

theorem Metadata.eq_stamped_of_asked {metadata other : Metadata}
    (same : other.asked = metadata.asked) :
    other =
      (metadata.withRest other.rest).stamped other.uid other.resourceVersion other.generation := by
  have restored := congrArg
    (fun left : Metadata =>
      (left.withRest other.rest).stamped other.uid other.resourceVersion other.generation) same
  exact restored

namespace Cluster

variable {cluster : Cluster} {labels : StringMap String} {metadata other : Metadata}

theorem adopt_withRest (rest : List (String × Json)) :
    cluster.adopt labels (metadata.withRest rest) =
      (cluster.adopt labels metadata).map (Metadata.withRest rest) := by
  unfold adopt control
  cases cluster.controllerReference? with
  | none => rfl
  | some owner =>
      dsimp only [Metadata.withRest]
      cases (metadata.ownerReferences.getD []).find?
        fun other => other.controller = some true && other.uid ≠ owner.uid <;> rfl

theorem adopt_of_asked (same : other.asked = metadata.asked)
    (settled : cluster.adopt labels metadata = .ok metadata) :
    cluster.adopt labels other = .ok other := by
  rw [Metadata.eq_stamped_of_asked same, adopt_stamped, adopt_withRest, settled]
  rfl

end Cluster

/-! ### Containers -/

/-- Where a list is left alone, so is one with the same items but for what is no matter to it. -/
theorem upsertFirst_of_map_eq {α β : Type} {fits : α → Bool} {change : α → α} {fresh : α}
    {view : α → β} {items others : List α}
    (fitting : ∀ item other, view other = view item → fits other = fits item)
    (again : ∀ item other, view other = view item → change item = item → change other = other)
    (same : others.map view = items.map view)
    (settled : upsertFirst fits change fresh items = items) :
    upsertFirst fits change fresh others = others := by
  induction items generalizing others with
  | nil => cases settled
  | cons item rest ih =>
      cases others with
      | nil => cases same
      | cons other others =>
          rcases List.cons.inj same with ⟨sameItem, sameRest⟩
          rw [upsertFirst] at settled ⊢
          rw [fitting item other sameItem]
          split at settled
          · rw [if_pos ‹_›, again item other sameItem (List.cons.inj settled).1]
          · rw [if_neg ‹_›, ih sameRest (List.cons.inj settled).2]

/-- The same for what may be unset, and is set from a blank then. -/
theorem some_getD_of_map_eq {α β : Type} {change : α → α} {blank : α} {view : α → β}
    {item other : Option α}
    (again : ∀ item other, view other = view item → change item = item → change other = other)
    (same : other.map view = item.map view) (settled : some (change (item.getD blank)) = item) :
    some (change (other.getD blank)) = other := by
  cases item with
  | none => cases settled
  | some item =>
      cases other with
      | none => cases same
      | some other =>
          have kept := again item other (Option.some_inj.mp same) (Option.some_inj.mp settled)
          exact congrArg some kept

namespace Workload

variable {cluster : Cluster} {workload : Workload}

theorem applyContainer_of_asked {container other : Container}
    (same : other.asked = container.asked)
    (settled : workload.applyContainer container = container) :
    workload.applyContainer other = other := by
  -- what the other container has of its own, put over the one that is settled
  let onto (container : Container) : Container :=
    { container with imagePullPolicy := other.imagePullPolicy, rest := other.rest }
  have restored : other = onto container := by
    have whole := congrArg onto same
    exact whole
  have kept := congrArg onto settled
  rw [restored]
  exact kept

theorem applyContainers_of_asked {containers others : List Container}
    (same : others.map Container.asked = containers.map Container.asked)
    (settled : workload.applyContainers containers = containers) :
    workload.applyContainers others = others := by
  refine upsertFirst_of_map_eq ?_ (fun _ _ => applyContainer_of_asked) same settled
  intro container other same
  have name : other.asked.name = container.asked.name := congrArg Container.name same
  exact congrArg (fun name => decide (name = workload.containerName)) name

/-- The pod with the workload's own container in shape. -/
def applyPod (workload : Workload) (pod : PodSpec) : PodSpec :=
  { pod with containers := workload.applyContainers pod.containers }

theorem applyPod_of_asked {pod other : PodSpec} (same : other.asked = pod.asked)
    (settled : workload.applyPod pod = pod) : workload.applyPod other = other := by
  have containers := applyContainers_of_asked (congrArg PodSpec.containers same)
    (congrArg PodSpec.containers settled)
  rw [applyPod, containers]

theorem applySpec_of_asked {spec other : DeploymentSpec} (same : other.asked = spec.asked)
    (settled : workload.applySpec cluster spec = spec) :
    workload.applySpec cluster other = other := by
  -- what the other spec has of its own, put over the one that is settled
  let onto (pod : Option PodSpec) (spec : DeploymentSpec) : DeploymentSpec :=
    { spec with
      revisionHistoryLimit := other.revisionHistoryLimit
      progressDeadlineSeconds := other.progressDeadlineSeconds
      template := { spec.template with spec := pod }
      rest := other.rest }
  have restored : other = onto other.template.spec spec := by
    have whole := congrArg (onto other.template.spec) same
    exact whole
  have pod := some_getD_of_map_eq (fun _ _ => applyPod_of_asked)
    (congrArg (fun spec : DeploymentSpec => spec.template.spec) same)
    (congrArg (fun spec : DeploymentSpec => spec.template.spec) settled)
  calc workload.applySpec cluster other
      = workload.applySpec cluster (onto other.template.spec spec) := by rw [← restored]
    _ = onto (some (workload.applyPod (other.template.spec.getD {})))
          (workload.applySpec cluster spec) := rfl
    _ = onto other.template.spec spec := by rw [pod, settled]
    _ = other := restored.symm

end Workload

/-! ### Objects -/

theorem Exposure.applySpec_of_asked {cluster : Cluster} {exposure : Exposure}
    {spec other : ServiceSpec} (same : other.asked = spec.asked)
    (settled : exposure.applySpec cluster spec = spec) :
    exposure.applySpec cluster other = other := by
  let onto (spec : ServiceSpec) : ServiceSpec := { spec with rest := other.rest }
  have restored : other = onto spec := by
    have whole := congrArg onto same
    exact whole
  have applied (spec : ServiceSpec) :
      exposure.applySpec cluster (onto spec) = onto (exposure.applySpec cluster spec) := by
    unfold applySpec
    split <;> rfl
  rw [restored, applied, settled]

theorem Exposure.apply_of_asked {cluster : Cluster} {exposure : Exposure} {service other : Service}
    (metadata : other.metadata.asked = service.metadata.asked)
    (spec : other.spec.map ServiceSpec.asked = service.spec.map ServiceSpec.asked)
    (settled : exposure.apply cluster service = .ok service) :
    exposure.apply cluster other = .ok other := by
  rcases apply_eq_ok settled with ⟨adopted, adopts, same⟩
  have own : service.metadata = adopted := congrArg Service.metadata same
  have applied : service.spec = some (exposure.applySpec cluster (service.spec.getD {})) :=
    congrArg Service.spec same
  rw [← own] at adopts
  rw [apply_eq_adopt, Cluster.adopt_of_asked metadata adopts]
  have kept := some_getD_of_map_eq (fun _ _ => applySpec_of_asked) spec applied.symm
  change Except.ok { other with spec := some (exposure.applySpec cluster (other.spec.getD {})) } = _
  rw [kept]

theorem Workload.apply_of_asked {cluster : Cluster} {workload : Workload}
    {deployment other : Deployment}
    (metadata : other.metadata.asked = deployment.metadata.asked)
    (spec : other.spec.map DeploymentSpec.asked = deployment.spec.map DeploymentSpec.asked)
    (settled : workload.apply cluster deployment = .ok deployment) :
    workload.apply cluster other = .ok other := by
  rcases apply_eq_ok settled with ⟨adopted, adopts, same⟩
  have own : deployment.metadata = adopted := congrArg Deployment.metadata same
  have applied : deployment.spec = some (workload.applySpec cluster (deployment.spec.getD {})) :=
    congrArg Deployment.spec same
  rw [← own] at adopts
  rw [apply_eq_adopt, Cluster.adopt_of_asked metadata adopts]
  have kept := some_getD_of_map_eq (fun _ _ => applySpec_of_asked) spec applied.symm
  change Except.ok
    { other with spec := some (workload.applySpec cluster (other.spec.getD {})) } = _
  rw [kept]

namespace Builder

variable {cluster : Cluster} {builder : Builder} {settled back : Child}

theorem updateService_of_asked {exposure : Except Error Exposure} (same : back.asked = settled.asked)
    (inShape : updateService cluster exposure settled = .ok settled) :
    updateService cluster exposure back = .ok back := by
  rcases updateService_eq_ok inShape with ⟨described, held, result, rfl, rfl, sameHeld, applied⟩
  cases sameHeld
  cases back with
  | deployment object => cases same
  | service object =>
      rcases Service.mk.inj (Child.service.inj same) with ⟨metadata, spec, _⟩
      change Child.service <$> described.apply cluster object = _
      rw [Exposure.apply_of_asked metadata spec applied]
      rfl

theorem updateDeployment_of_asked {workload : Except Error Workload}
    (same : back.asked = settled.asked)
    (inShape : updateDeployment cluster workload settled = .ok settled) :
    updateDeployment cluster workload back = .ok back := by
  rcases updateDeployment_eq_ok inShape with ⟨described, held, result, rfl, rfl, sameHeld, applied⟩
  cases sameHeld
  cases back with
  | service object => cases same
  | deployment object =>
      rcases Deployment.mk.inj (Child.deployment.inj same) with ⟨metadata, spec, _⟩
      change Child.deployment <$> described.apply cluster object = _
      rw [Workload.apply_of_asked metadata spec applied]
      rfl

/-- Whether an object is in shape can be told without what the API server stamps or fills in. -/
theorem update_of_asked (inShape : builder.update cluster settled = .ok settled)
    (same : back.asked = settled.asked) :
    builder.update cluster back = .ok back := by
  cases builder with
  | frontendService => exact updateService_of_asked same inShape
  | headlessService role => exact updateService_of_asked same inShape
  | roleDeployment role => exact updateDeployment_of_asked same inShape
  | uiDeployment => exact updateDeployment_of_asked same inShape
  | uiService => exact updateService_of_asked same inShape
  | adminToolsDeployment => exact updateDeployment_of_asked same inShape

/-- An object in shape that is found is left alone, and nothing more is asked. -/
theorem Visit.eq_of_inShape {calls : List Exchange} {result : Except Error (Option Child)}
    (visit : builder.Visit cluster calls result) (enabled : builder.isEnabled cluster)
    (inShape : builder.update cluster back = .ok back)
    (found : calls.head? = some
      (.answered (.store (.getChild (builder.key cluster))) (.ok (some back)))) :
    calls = [.answered (.store (.getChild (builder.key cluster))) (.ok (some back))] ∧
      result = .ok (some back) := by
  cases visit with
  | unseen error => cases found
  | absent disabled => cases found
  | create answer enabled updated => cases found
  | @refuse read error enabled refused =>
      cases found
      cases inShape.symm.trans refused
  | keep enabled inShape =>
      cases found
      exact ⟨rfl, rfl⟩
  | replace answer enabled updated changed =>
      cases found
      cases inShape.symm.trans updated
      exact absurd rfl changed
  | delete answer disabled => cases enabled.symm.trans disabled

/-- What a builder has brought into shape it finds in shape, whatever the object was like before. An
object in shape stays so whatever the API server stamps on it or fills in, and where it is read back
in this form it is left alone. -/
theorem inShape_read_back (cluster : Cluster) (builder : Builder) :
    (∀ observed shaped, builder.update cluster observed = .ok shaped →
      builder.update cluster shaped = .ok shaped) ∧
    ∀ settled back, builder.update cluster settled = .ok settled → back.asked = settled.asked →
      builder.update cluster back = .ok back ∧
      (builder.isEnabled cluster → ∀ calls result,
        Trace (convergeChild cluster builder).run calls result →
        calls.head? = some
          (.answered (.store (.getChild (builder.key cluster))) (.ok (some back))) →
        calls = [.answered (.store (.getChild (builder.key cluster))) (.ok (some back))] ∧
          result = .ok (some back)) := by
  refine ⟨fun observed shaped => update_update, fun settled back inShape same => ?_⟩
  have kept := update_of_asked inShape same
  refine ⟨kept, fun enabled calls result trace found => ?_⟩
  exact (visit_of_trace trace).eq_of_inShape enabled kept found

end Builder

/-! ### An object that others have had their hands on -/

/-- The deployment as an API server fills it in. -/
def Deployment.filled (deployment : Deployment) : Deployment where
  metadata :=
    { deployment.metadata.stamped (some "1f2e") (some "7") (some 3) with
      rest := [("creationTimestamp", .string "2024-05-01T10:00:00Z")] }
  spec := deployment.spec.map fun spec =>
    { spec with
      revisionHistoryLimit := some 10
      progressDeadlineSeconds := some 600
      template :=
        { spec.template with
          spec := spec.template.spec.map fun pod =>
            { restartPolicy := some "Always"
              dnsPolicy := some "ClusterFirst"
              containers := pod.containers.map fun container =>
                { container with
                  imagePullPolicy := some "IfNotPresent"
                  rest := [("terminationMessagePolicy", .string "File")] }
              rest := [("schedulerName", .string "default-scheduler")] } } }
  status := some { replicas := some 1, readyReplicas := some 0, observedGeneration := some 2 }

theorem Deployment.asked_filled (deployment : Deployment) :
    (Child.deployment deployment.filled).asked = (Child.deployment deployment).asked := by
  rcases deployment with ⟨metadata, _ | ⟨_, _, _, _, _, ⟨_, _ | pod⟩, _⟩, status⟩
  · rfl
  · rfl
  · simp only [Child.asked, filled, DeploymentSpec.asked, PodSpec.asked, Option.map_some,
      List.map_map]
    rfl

/-- A deployment with a container of somebody else, with two containers and two variables of one
name, and with two references to one owner. -/
def Deployment.crowded : Deployment where
  metadata :=
    { name := some "prod-matching"
      ns := some "apps"
      ownerReferences :=
        some [{ uid := "1", name := "old" }, { uid := "1", name := "older", kind := "Team" }] }
  spec := some
    { template :=
        { spec := some
            { containers :=
                [{ name := "proxy" },
                  { name := "temporal",
                    env := some [.plain "SERVICES" "history", .plain "SERVICES" "worker"] },
                  { name := "temporal", image := some "temporal:old" }] } } }

/-- The deployment is brought into shape once, and left alone when it is read back as the API server
has filled it in. -/
theorem Builder.inShape_read_back_of_crowded :
    let cluster : Cluster :=
      { metadata := { name := some "prod", ns := some "apps", uid := some "1" }
        spec := ClusterSpec.withDefaults {}
        status := none }
    let builder := Builder.roleDeployment .matching
    ∃ shaped : Deployment,
      builder.update cluster (.deployment .crowded) = .ok (.deployment shaped) ∧
      builder.update cluster (.deployment shaped) = .ok (.deployment shaped) ∧
      shaped.filled ≠ shaped ∧
      ∀ replies : Replies,
        replies (.store (.getChild (builder.key cluster))) =
          .ok (some (.deployment shaped.filled)) →
        (follow replies (convergeChild cluster builder).run).2 =
          .ok (some (.deployment shaped.filled)) := by
  intro cluster builder
  obtain ⟨shaped, updated⟩ :
      ∃ shaped, builder.update cluster (.deployment .crowded) = .ok (.deployment shaped) :=
    ⟨_, rfl⟩
  have inShape := (inShape_read_back cluster builder).1 _ _ updated
  refine ⟨shaped, updated, inShape, ?_, fun replies found => ?_⟩
  · cases updated
    decide
  · have trace := trace_follow replies (convergeChild cluster builder).run
    refine (((inShape_read_back cluster builder).2 _ _ inShape shaped.asked_filled).2 rfl _ _ trace
      ?_).2
    rw [← found]
    rfl

end ClusterOperator
