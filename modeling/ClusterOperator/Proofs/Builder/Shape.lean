import ClusterOperator.Builder.Basic
import ClusterOperator.Proofs.Except
import ClusterOperator.SortedMap.Lemmas

/-!
# Objects in shape

A builder that has brought an object into shape finds it in shape: bringing it into shape again
changes nothing. What the store puts on an object in between, its version, its generation and its
identity, makes no difference to this.
-/

namespace ClusterOperator

/-- What a map has over another one it has already the second time. -/
theorem SortedMap.overlay_overlay {κ α : Type} [Ord κ] [DecidableEq κ] [Std.TransOrd κ]
    [Std.LawfulEqOrd κ] (lower upper : SortedMap κ α) :
    (lower.overlay upper).overlay upper = lower.overlay upper := by
  refine ext_get? fun key => ?_
  rw [get?_overlay, get?_overlay]
  cases upper.get? key <;> rfl

theorem mergeOver_mergeOver (observed : Option (StringMap String)) (overlay : StringMap String) :
    mergeOver (some (mergeOver observed [overlay])) [overlay] = mergeOver observed [overlay] :=
  SortedMap.overlay_overlay _ overlay

/-- A list in which the first item that fits is as it should be is left alone. -/
theorem upsertFirst_upsertFirst {α : Type} {fits : α → Bool} {change : α → α} {fresh : α}
    (again : ∀ item, change (change item) = change item)
    (fitting : ∀ item, fits item → fits (change item)) (fitsFresh : fits fresh)
    (settled : change fresh = fresh) (items : List α) :
    upsertFirst fits change fresh (upsertFirst fits change fresh items) =
      upsertFirst fits change fresh items := by
  induction items with
  | nil => simp only [upsertFirst, fitsFresh, settled, if_true]
  | cons item rest ih =>
      rw [upsertFirst]
      split
      · rw [upsertFirst, if_pos (fitting item ‹_›), again]
      · rw [upsertFirst, if_neg ‹_›, ih]

/-- An item of the changed list was there before, or it is a changed one, or the new one. -/
theorem mem_upsertFirst {α : Type} {fits : α → Bool} {change : α → α} {fresh item : α}
    {items : List α} (there : item ∈ upsertFirst fits change fresh items) :
    item ∈ items ∨ item = fresh ∨ ∃ held, item = change held := by
  induction items with
  | nil => exact .inr (.inl (List.mem_singleton.mp there))
  | cons first rest ih =>
      rw [upsertFirst] at there
      split at there
      · rcases List.mem_cons.mp there with rfl | later
        · exact .inr (.inr ⟨first, rfl⟩)
        · exact .inl (List.mem_cons_of_mem _ later)
      · rcases List.mem_cons.mp there with rfl | later
        · exact .inl (List.mem_cons_self ..)
        · rcases ih later with held | new
          · exact .inl (List.mem_cons_of_mem _ held)
          · exact .inr new

/-! ### Metadata -/

/-- The metadata with what the store puts on an object. -/
def Metadata.stamped (uid version : Option String) (generation : Option Int)
    (metadata : Metadata) : Metadata :=
  { metadata with uid, resourceVersion := version, generation }

namespace Cluster

variable {cluster : Cluster} {labels : StringMap String} {metadata adopted : Metadata}

/-- The metadata of an object that is brought into shape. -/
def adopt (cluster : Cluster) (labels : StringMap String) (metadata : Metadata) :
    Except Error Metadata :=
  cluster.control
    { metadata with
      labels := some (mergeOver metadata.labels [labels])
      annotations := some (mergeOver metadata.annotations [cluster.childAnnotations]) }

/-- A cluster controls what no other owner controls. -/
theorem control_eq_ok (controlled : cluster.control metadata = .ok adopted) :
    ∃ owner, cluster.controllerReference? = some owner ∧
      (∀ other ∈ metadata.ownerReferences.getD [],
        ¬ (other.controller = some true && other.uid ≠ owner.uid)) ∧
      adopted = { metadata with
        ownerReferences := some <|
          upsertFirst (fun other => other.uid = owner.uid) (fun _ => owner) owner
            (metadata.ownerReferences.getD []) } := by
  unfold control at controlled
  split at controlled
  · cases controlled
  · rename_i owner identity
    dsimp only at controlled
    split at controlled
    · cases controlled
    · rename_i free
      cases controlled
      exact ⟨owner, identity, List.find?_eq_none.mp free, rfl⟩

/-- Whom a cluster controls already it goes on controlling. -/
theorem control_control (controlled : cluster.control metadata = .ok adopted) :
    cluster.control adopted = .ok adopted := by
  rcases control_eq_ok controlled with ⟨owner, identity, free, rfl⟩
  let fits := fun other : OwnerReference => decide (other.uid = owner.uid)
  let owners := metadata.ownerReferences.getD []
  have fitting : fits owner := decide_eq_true rfl
  have unrivalled : (upsertFirst fits (fun _ => owner) owner owners).find?
      (fun other => other.controller = some true && other.uid ≠ owner.uid) = none := by
    refine List.find?_eq_none.mpr fun other there => ?_
    rcases mem_upsertFirst there with held | rfl | ⟨_, rfl⟩
    · exact free other held
    · simp
    · simp
  have settled : upsertFirst fits (fun _ => owner) owner
      (upsertFirst fits (fun _ => owner) owner owners) =
        upsertFirst fits (fun _ => owner) owner owners := by
    refine upsertFirst_upsertFirst ?_ ?_ fitting rfl owners
    · exact fun _ => rfl
    · exact fun _ _ => fitting
  simp only [control, identity, Option.getD_some]
  rw [unrivalled]
  dsimp only
  rw [settled]

theorem control_stamped (metadata : Metadata) (uid version : Option String)
    (generation : Option Int) :
    cluster.control (metadata.stamped uid version generation) =
      (cluster.control metadata).map (Metadata.stamped uid version generation) := by
  unfold control
  cases cluster.controllerReference? with
  | none => rfl
  | some owner =>
      dsimp only [Metadata.stamped]
      cases (metadata.ownerReferences.getD []).find?
        fun other => other.controller = some true && other.uid ≠ owner.uid <;> rfl

theorem adopt_adopt (adopts : cluster.adopt labels metadata = .ok adopted) :
    cluster.adopt labels adopted = .ok adopted := by
  have settled := control_control adopts
  rcases control_eq_ok adopts with ⟨owner, _, _, rfl⟩
  rw [adopt]
  simp only [mergeOver_mergeOver]
  exact settled

theorem adopt_stamped (uid version : Option String) (generation : Option Int) :
    cluster.adopt labels (metadata.stamped uid version generation) =
      (cluster.adopt labels metadata).map (Metadata.stamped uid version generation) :=
  control_stamped
    { metadata with
      labels := some (mergeOver metadata.labels [labels])
      annotations := some (mergeOver metadata.annotations [cluster.childAnnotations]) }
    uid version generation

end Cluster

/-! ### Services -/

namespace Exposure

variable {cluster : Cluster} {exposure : Exposure} {service shaped : Service}

theorem applySpec_applySpec (spec : ServiceSpec) :
    exposure.applySpec cluster (exposure.applySpec cluster spec) =
      exposure.applySpec cluster spec := by
  unfold applySpec
  split <;> rfl

theorem apply_eq_adopt (exposure : Exposure) (cluster : Cluster) (service : Service) :
    exposure.apply cluster service =
      (cluster.adopt exposure.labels service.metadata).map fun metadata =>
        { service with
          metadata, spec := some (exposure.applySpec cluster (service.spec.getD {})) } :=
  rfl

theorem apply_eq_ok (applied : exposure.apply cluster service = .ok shaped) :
    ∃ metadata, cluster.adopt exposure.labels service.metadata = .ok metadata ∧
      shaped =
        { service with
          metadata, spec := some (exposure.applySpec cluster (service.spec.getD {})) } := by
  rcases Except.map_eq_ok_iff.mp applied with ⟨metadata, adopts, made⟩
  exact ⟨metadata, adopts, made.symm⟩

theorem apply_apply (applied : exposure.apply cluster service = .ok shaped) :
    exposure.apply cluster shaped = .ok shaped := by
  rcases apply_eq_ok applied with ⟨metadata, adopts, rfl⟩
  rw [apply_eq_adopt, Cluster.adopt_adopt adopts, Option.getD_some, applySpec_applySpec]
  rfl

end Exposure

/-! ### Deployments -/

namespace EnvVar

variable {entry : EnvVar} {entries env : List EnvVar}

/-- The first environment variable of a name. -/
def first? (name : String) (env : List EnvVar) : Option EnvVar :=
  env.find? fun entry => entry.name = name

/-- The environment variables with others set in it, one after the other. -/
def setAll (entries env : List EnvVar) : List EnvVar :=
  entries.foldl (fun env entry => entry.set env) env

theorem first?_set (name : String) (entry : EnvVar) (env : List EnvVar) :
    first? name (entry.set env) = if entry.name = name then some entry else first? name env := by
  induction env with
  | nil => simp [set, upsertFirst, first?]
  | cons held rest ih =>
      by_cases same : held.name = entry.name
      · by_cases here : entry.name = name <;> simp [set, upsertFirst, first?, same, here]
      · by_cases here : held.name = name
        · have other : entry.name ≠ name := fun also => same (here.trans also.symm)
          simp [set, upsertFirst, first?, here, other, Ne.symm other]
        · simpa [set, upsertFirst, first?, same, here] using ih

theorem set_eq_self (there : first? entry.name env = some entry) : entry.set env = env := by
  induction env with
  | nil => cases there
  | cons held rest ih =>
      by_cases same : held.name = entry.name
      · have is : held = entry := by simpa [first?, same] using there
        simp [set, upsertFirst, is]
      · have later : first? entry.name rest = some entry := by simpa [first?, same] using there
        have settled := ih later
        unfold set at settled ⊢
        rw [upsertFirst, if_neg (by simpa using same), settled]

theorem first?_setAll_of_ne {name : String} (others : ∀ entry ∈ entries, entry.name ≠ name) :
    first? name (setAll entries env) = first? name env := by
  induction entries generalizing env with
  | nil => rfl
  | cons entry rest ih =>
      rw [setAll, List.foldl_cons, ← setAll, ih fun other there =>
        others other (List.mem_cons_of_mem _ there), first?_set,
        if_neg (others entry (List.mem_cons_self ..))]

/-- Of environment variables with different names, each is there once all of them are set. -/
theorem first?_setAll (distinct : entries.Pairwise fun left right => left.name ≠ right.name)
    (there : entry ∈ entries) : first? entry.name (setAll entries env) = some entry := by
  induction entries generalizing env with
  | nil => cases there
  | cons head rest ih =>
      rcases List.pairwise_cons.mp distinct with ⟨apart, distinct⟩
      rw [setAll, List.foldl_cons, ← setAll]
      rcases List.mem_cons.mp there with rfl | later
      · rw [first?_setAll_of_ne fun other there => (apart other there).symm, first?_set, if_pos rfl]
      · exact ih distinct later

theorem setAll_eq_self (there : ∀ entry ∈ entries, first? entry.name env = some entry) :
    setAll entries env = env := by
  induction entries with
  | nil => rfl
  | cons entry rest ih =>
      rw [setAll, List.foldl_cons, ← setAll, set_eq_self (there entry (List.mem_cons_self ..))]
      exact ih fun other later => there other (List.mem_cons_of_mem _ later)

theorem setAll_setAll (distinct : entries.Pairwise fun left right => left.name ≠ right.name) :
    setAll entries (setAll entries env) = setAll entries env :=
  setAll_eq_self fun _ there => first?_setAll distinct there

end EnvVar

namespace Workload

variable {cluster : Cluster} {workload : Workload} {deployment shaped : Deployment}

/-- The environment variables of a workload have different names. -/
def Distinct (workload : Workload) : Prop :=
  workload.env.Pairwise fun left right => left.name ≠ right.name

theorem applyContainer_applyContainer (distinct : workload.Distinct) (container : Container) :
    workload.applyContainer (workload.applyContainer container) =
      workload.applyContainer container := by
  have env : EnvVar.setAll workload.env
      (EnvVar.setAll workload.env (container.env.getD [])) = _ :=
    EnvVar.setAll_setAll distinct
  unfold EnvVar.setAll at env
  have ports : workload.ports.or (workload.ports.or container.ports) =
      workload.ports.or container.ports := by
    cases workload.ports <;> rfl
  simp only [applyContainer, Option.getD_some, env, ports]

theorem applyContainers_applyContainers (distinct : workload.Distinct)
    (containers : List Container) :
    workload.applyContainers (workload.applyContainers containers) =
      workload.applyContainers containers := by
  refine upsertFirst_upsertFirst ?_ ?_ ?_ ?_ containers
  · exact applyContainer_applyContainer distinct
  · exact fun container fits => fits
  · exact decide_eq_true rfl
  · exact applyContainer_applyContainer distinct _

theorem applySpec_applySpec (distinct : workload.Distinct) (spec : DeploymentSpec) :
    workload.applySpec cluster (workload.applySpec cluster spec) =
      workload.applySpec cluster spec := by
  simp only [applySpec, Option.getD_some, mergeOver_mergeOver,
    applyContainers_applyContainers distinct]

theorem apply_eq_adopt (workload : Workload) (cluster : Cluster) (deployment : Deployment) :
    workload.apply cluster deployment =
      (cluster.adopt (cluster.childLabels workload.component.text workload.version)
        deployment.metadata).map fun metadata =>
          { deployment with
            metadata, spec := some (workload.applySpec cluster (deployment.spec.getD {})) } :=
  rfl

theorem apply_eq_ok (applied : workload.apply cluster deployment = .ok shaped) :
    ∃ metadata,
      cluster.adopt (cluster.childLabels workload.component.text workload.version)
        deployment.metadata = .ok metadata ∧
      shaped =
        { deployment with
          metadata, spec := some (workload.applySpec cluster (deployment.spec.getD {})) } := by
  rcases Except.map_eq_ok_iff.mp applied with ⟨metadata, adopts, made⟩
  exact ⟨metadata, adopts, made.symm⟩

theorem apply_apply (distinct : workload.Distinct)
    (applied : workload.apply cluster deployment = .ok shaped) :
    workload.apply cluster shaped = .ok shaped := by
  rcases apply_eq_ok applied with ⟨metadata, adopts, rfl⟩
  rw [apply_eq_adopt, Cluster.adopt_adopt adopts, Option.getD_some, applySpec_applySpec distinct]
  rfl

theorem distinct_role {role : Role} (described : Workload.role cluster role = .ok workload) :
    workload.Distinct := by
  rcases Except.bind_eq_ok_iff.mp described with ⟨ports, _, ⟨⟩⟩
  exact List.pairwise_pair.mpr (by simp [EnvVar.plain, EnvVar.podAddress])

theorem distinct_ui (described : Workload.ui cluster = .ok workload) : workload.Distinct := by
  rcases Except.bind_eq_ok_iff.mp described with ⟨address, _, ⟨⟩⟩
  exact List.pairwise_singleton _ _

theorem distinct_adminTools (described : Workload.adminTools cluster = .ok workload) :
    workload.Distinct := by
  rcases Except.bind_eq_ok_iff.mp described with ⟨address, _, ⟨⟩⟩
  exact List.pairwise_pair.mpr (by simp [EnvVar.plain])

end Workload

/-! ### Objects of builders -/

/-- The object with what the store puts on it. -/
def Child.stamped (uid version : Option String) (generation : Option Int) (child : Child) : Child :=
  child.withMetadata (child.metadata.stamped uid version generation)

namespace Builder

variable {cluster : Cluster} {builder : Builder} {observed shaped : Child}

theorem updateService_eq_ok {exposure : Except Error Exposure}
    (updated : updateService cluster exposure observed = .ok shaped) :
    ∃ described held result, exposure = .ok described ∧ observed = .service held ∧
      shaped = .service result ∧ described.apply cluster held = .ok result := by
  cases observed with
  | deployment held => cases updated
  | service held =>
      rcases Except.bind_eq_ok_iff.mp updated with ⟨described, isDescribed, updated⟩
      rcases Except.map_eq_ok_iff.mp updated with ⟨result, applied, rfl⟩
      exact ⟨described, held, result, isDescribed, rfl, rfl, applied⟩

theorem updateDeployment_eq_ok {workload : Except Error Workload}
    (updated : updateDeployment cluster workload observed = .ok shaped) :
    ∃ described held result, workload = .ok described ∧ observed = .deployment held ∧
      shaped = .deployment result ∧ described.apply cluster held = .ok result := by
  rcases Except.bind_eq_ok_iff.mp updated with ⟨described, isDescribed, updated⟩
  cases observed with
  | service held => cases updated
  | deployment held =>
      rcases Except.map_eq_ok_iff.mp updated with ⟨result, applied, rfl⟩
      exact ⟨described, held, result, isDescribed, rfl, rfl, applied⟩

/-- What a builder says that its service exposes. -/
inductive Exposes (cluster : Cluster) : Builder → Exposure → Prop
  | frontend {exposure : Exposure}
      (described : Exposure.frontend cluster (frontendService.labels cluster) = .ok exposure) :
      Exposes cluster frontendService exposure
  | members {role : Role} {exposure : Exposure}
      (described :
        Exposure.members cluster role ((headlessService role).labels cluster) = .ok exposure) :
      Exposes cluster (headlessService role) exposure
  | ui : Exposes cluster uiService (Exposure.ui (uiService.labels cluster))

/-- What a builder says that its deployment runs. -/
inductive Deploys (cluster : Cluster) : Builder → Workload → Prop
  | role {role : Role} {workload : Workload}
      (described : Workload.role cluster role = .ok workload) :
      Deploys cluster (roleDeployment role) workload
  | ui {workload : Workload} (described : Workload.ui cluster = .ok workload) :
      Deploys cluster uiDeployment workload
  | adminTools {workload : Workload} (described : Workload.adminTools cluster = .ok workload) :
      Deploys cluster adminToolsDeployment workload

/-- A builder applies what it says of its service, or of its deployment. -/
theorem update_cases (updated : builder.update cluster observed = .ok shaped) :
    (∃ (exposure : Exposure) (held result : Service), builder.Exposes cluster exposure ∧
      observed = .service held ∧ shaped = .service result ∧
      exposure.apply cluster held = .ok result) ∨
    ∃ (workload : Workload) (held result : Deployment), builder.Deploys cluster workload ∧
      observed = .deployment held ∧ shaped = .deployment result ∧
      workload.apply cluster held = .ok result := by
  cases builder with
  | frontendService =>
      rcases updateService_eq_ok updated with ⟨exposure, held, result, described, applied⟩
      exact .inl ⟨exposure, held, result, .frontend described, applied⟩
  | headlessService role =>
      rcases updateService_eq_ok updated with ⟨exposure, held, result, described, applied⟩
      exact .inl ⟨exposure, held, result, .members described, applied⟩
  | roleDeployment role =>
      rcases updateDeployment_eq_ok updated with ⟨workload, held, result, described, applied⟩
      exact .inr ⟨workload, held, result, .role described, applied⟩
  | uiDeployment =>
      rcases updateDeployment_eq_ok updated with ⟨workload, held, result, described, applied⟩
      exact .inr ⟨workload, held, result, .ui described, applied⟩
  | uiService =>
      rcases updateService_eq_ok updated with ⟨exposure, held, result, described, applied⟩
      cases described
      exact .inl ⟨_, held, result, .ui, applied⟩
  | adminToolsDeployment =>
      rcases updateDeployment_eq_ok updated with ⟨workload, held, result, described, applied⟩
      exact .inr ⟨workload, held, result, .adminTools described, applied⟩

theorem updateService_updateService {exposure : Except Error Exposure}
    (updated : updateService cluster exposure observed = .ok shaped) :
    updateService cluster exposure shaped = .ok shaped := by
  rcases updateService_eq_ok updated with ⟨described, held, result, rfl, rfl, rfl, applied⟩
  change Child.service <$> described.apply cluster result = .ok (.service result)
  rw [Exposure.apply_apply applied]
  rfl

theorem updateDeployment_updateDeployment {workload : Except Error Workload}
    (distinct : ∀ described, workload = .ok described → described.Distinct)
    (updated : updateDeployment cluster workload observed = .ok shaped) :
    updateDeployment cluster workload shaped = .ok shaped := by
  rcases updateDeployment_eq_ok updated with ⟨described, held, result, rfl, rfl, rfl, applied⟩
  change Child.deployment <$> described.apply cluster result = .ok (.deployment result)
  rw [Workload.apply_apply (distinct described rfl) applied]
  rfl

/-- What a builder has brought into shape is in shape. -/
theorem update_update (updated : builder.update cluster observed = .ok shaped) :
    builder.update cluster shaped = .ok shaped := by
  cases builder with
  | frontendService => exact updateService_updateService updated
  | headlessService role => exact updateService_updateService updated
  | roleDeployment role =>
      exact updateDeployment_updateDeployment (fun _ => Workload.distinct_role) updated
  | uiDeployment => exact updateDeployment_updateDeployment (fun _ => Workload.distinct_ui) updated
  | uiService => exact updateService_updateService updated
  | adminToolsDeployment =>
      exact updateDeployment_updateDeployment (fun _ => Workload.distinct_adminTools) updated

variable (uid version : Option String) (generation : Option Int)

theorem updateService_stamped (exposure : Except Error Exposure) (observed : Child) :
    updateService cluster exposure (observed.stamped uid version generation) =
      (updateService cluster exposure observed).map (Child.stamped uid version generation) := by
  cases observed with
  | deployment object => rfl
  | service object =>
      cases exposure with
      | error error => rfl
      | ok exposure =>
          change Child.service <$> exposure.apply cluster
              { object with metadata := object.metadata.stamped uid version generation } =
            (Child.service <$> exposure.apply cluster object).map _
          rw [Exposure.apply_eq_adopt, Exposure.apply_eq_adopt, Cluster.adopt_stamped]
          cases cluster.adopt exposure.labels object.metadata <;> rfl

theorem updateDeployment_stamped (workload : Except Error Workload) (observed : Child) :
    updateDeployment cluster workload (observed.stamped uid version generation) =
      (updateDeployment cluster workload observed).map (Child.stamped uid version generation) := by
  cases workload with
  | error error => rfl
  | ok workload =>
      cases observed with
      | service object => rfl
      | deployment object =>
          change Child.deployment <$> workload.apply cluster
              { object with metadata := object.metadata.stamped uid version generation } =
            (Child.deployment <$> workload.apply cluster object).map _
          rw [Workload.apply_eq_adopt, Workload.apply_eq_adopt, Cluster.adopt_stamped]
          cases cluster.adopt _ object.metadata <;> rfl

/-- What the store puts on an object is no matter of its shape. -/
theorem update_stamped (builder : Builder) (observed : Child) :
    builder.update cluster (observed.stamped uid version generation) =
      (builder.update cluster observed).map (Child.stamped uid version generation) := by
  cases builder with
  | frontendService => exact updateService_stamped uid version generation _ observed
  | headlessService role => exact updateService_stamped uid version generation _ observed
  | roleDeployment role => exact updateDeployment_stamped uid version generation _ observed
  | uiDeployment => exact updateDeployment_stamped uid version generation _ observed
  | uiService => exact updateService_stamped uid version generation _ observed
  | adminToolsDeployment => exact updateDeployment_stamped uid version generation _ observed

/-- An object that a builder has brought into shape is still in shape when it has been stored. -/
theorem update_of_stamped (updated : builder.update cluster observed = .ok shaped) :
    builder.update cluster (shaped.stamped uid version generation) =
      .ok (shaped.stamped uid version generation) := by
  rw [update_stamped, update_update updated]
  rfl

end Builder

end ClusterOperator
