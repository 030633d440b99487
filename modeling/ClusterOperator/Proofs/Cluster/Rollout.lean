import ClusterOperator.Cluster.Basic
import ClusterOperator.Proofs.Cluster.Children

/-!
# Rollouts

A pass does one of four things to the object under the key of a builder: it leaves the object alone,
creates it, replaces it by one that is in shape, or deletes it where there should be none. All other
objects stay. What a pass has just created or replaced is not rolled out, unless it was reported
before that more was rolled out than was ever asked.
-/

namespace ClusterOperator

/-! ### What becomes of a child -/

/-- What a builder may make of the object under its key. -/
inductive Builder.Makes (builder : Builder) (cluster : Cluster) :
    Option Child → Option Child → Prop
  | keeps (stored : Option Child) : Makes builder cluster stored stored
  | creates {child : Child} (uid version : Option String) (enabled : builder.isEnabled cluster)
      (updated : builder.update cluster (builder.skeleton cluster) = .ok child) :
      Makes builder cluster none (some (child.stamped uid version (some 1)))
  | replaces {observed child : Child} (uid version : Option String)
      (enabled : builder.isEnabled cluster) (own : child.key = builder.key cluster)
      (updated : builder.update cluster observed = .ok child) :
      Makes builder cluster (some observed)
        (some (child.stamped uid version (some observed.metadata.nextGeneration)))
  | deletes (observed : Child) (disabled : builder.isEnabled cluster = false) :
      Makes builder cluster (some observed) none

theorem Builder.Completes.makes {builder : Builder} {cluster : Cluster}
    {before after : Option Child} (completes : builder.Completes cluster before after) :
    builder.Makes cluster before after := by
  cases completes with
  | keeps inShape => exact .keeps _
  | creates version enabled updated => exact .creates _ version enabled updated
  | replaces version enabled own changed updated => exact .replaces _ version enabled own updated
  | deletes observed disabled => exact .deletes observed disabled

theorem Child.key_stamped (uid version : Option String) (generation : Option Int) (child : Child) :
    (child.stamped uid version generation).key = child.key := by
  cases child <;> rfl

/-- A change of the children by one builder: under its key only, and of the four kinds. -/
structure Builder.Changes (builder : Builder) (cluster : Cluster) (store later : Store) : Prop where
  makes : builder.Makes cluster (store.children.get? (builder.key cluster))
    (later.children.get? (builder.key cluster))
  others : ∀ key, builder.key cluster ≠ key →
    later.children.get? key = store.children.get? key

namespace Store

variable {store later : Store} {cluster : Cluster} {builder : Builder}

theorem changes_of_eq (same : later.children = store.children) :
    builder.Changes cluster store later := by
  refine ⟨?_, fun key _ => ?_⟩
  · rw [same]
    exact .keeps _
  · rw [same]

/-- Bringing one child into shape is such a change, whatever comes of it. -/
theorem changes_converge (cluster : Cluster) (builder : Builder) (versioned : store.Versioned) :
    builder.Changes cluster store (store.converge cluster builder).2 := by
  cases converged : store.converge cluster builder with
  | mk result later =>
      cases result with
      | error error => exact changes_of_eq (converge_error versioned converged).1.children
      | ok child =>
          have shaped := converge_ok versioned converged
          refine ⟨?_, shaped.others⟩
          rw [shaped.stored]
          exact shaped.completes.makes

/-- Where a child cannot be brought into shape, the ones after it are left alone. -/
theorem convergeAll_cons_snd (cluster : Cluster) (builder : Builder) (rest : List Builder)
    (store : Store) :
    (store.convergeAll cluster (builder :: rest)).2 =
      match store.converge cluster builder with
      | (.error _, later) => later
      | (.ok _, later) => (later.convergeAll cluster rest).2 := by
  rw [convergeAll]
  rcases store.converge cluster builder with ⟨error | child, later⟩
  · rfl
  · dsimp only
    rcases later.convergeAll cluster rest with ⟨error | children, last⟩ <;> rfl

/-- Bringing some children into shape is one such change for each of them, and none of the others,
whatever comes of it. -/
theorem makes_convergeAll {builders : List Builder} (versioned : store.Versioned)
    (distinct : builders.Pairwise fun left right => left.key cluster ≠ right.key cluster) :
    (∀ builder ∈ builders, builder.Makes cluster (store.children.get? (builder.key cluster))
      ((store.convergeAll cluster builders).2.children.get? (builder.key cluster))) ∧
    ∀ key, (∀ builder ∈ builders, builder.key cluster ≠ key) →
      (store.convergeAll cluster builders).2.children.get? key = store.children.get? key := by
  induction builders generalizing store with
  | nil => exact ⟨nofun, fun _ _ => rfl⟩
  | cons builder rest ih =>
      rcases List.pairwise_cons.mp distinct with ⟨apart, distinct⟩
      have first := changes_converge cluster builder versioned
      have progress := progress_converge cluster builder store
      rw [convergeAll_cons_snd]
      generalize store.converge cluster builder = converged at first progress ⊢
      rcases converged with ⟨error | child, middle⟩
      · refine ⟨fun one there => ?_, fun key outside => ?_⟩
        · rcases List.mem_cons.mp there with rfl | there
          · exact first.makes
          · dsimp only
            rw [first.others _ (apart one there)]
            exact .keeps _
        · exact first.others key (outside builder (List.mem_cons_self ..))
      · rcases ih (progress.versioned versioned) distinct with ⟨makes, others⟩
        refine ⟨fun one there => ?_, fun key outside => ?_⟩
        · dsimp only
          rcases List.mem_cons.mp there with rfl | there
          · rw [others _ fun other there => (apart other there).symm]
            exact first.makes
          · rw [← first.others _ (apart one there)]
            exact makes one there
        · dsimp only
          rw [others key fun one there => outside one (List.mem_cons_of_mem _ there)]
          exact first.others key (outside builder (List.mem_cons_self ..))

/-! ### Children under their own keys -/

/-- Every child stands under its own key. -/
def ChildrenFiled (store : Store) : Prop :=
  ∀ key child, store.children.get? key = some child → child.key = key

theorem key_of_makes {before after : Option Child} {child : Child}
    (makes : builder.Makes cluster before after)
    (filed : ∀ child, before = some child → child.key = builder.key cluster)
    (there : after = some child) : child.key = builder.key cluster := by
  cases makes with
  | keeps => exact filed child there
  | creates uid version enabled updated =>
      cases there
      rw [Child.key_stamped]
      exact Builder.key_update updated
  | replaces uid version enabled own updated =>
      cases there
      rw [Child.key_stamped]
      exact own
  | deletes => cases there

theorem childrenFiled_convergeAll (cluster : Cluster) (versioned : store.Versioned)
    (filed : store.ChildrenFiled) :
    (store.convergeAll cluster Builder.all).2.ChildrenFiled := by
  rcases makes_convergeAll versioned (Builder.pairwise_key_ne cluster) with ⟨makes, others⟩
  intro key child there
  by_cases described : ∃ builder ∈ Builder.all, builder.key cluster = key
  · rcases described with ⟨builder, known, rfl⟩
    exact key_of_makes (makes builder known) (filed _) there
  · rw [others key fun builder known same => described ⟨builder, known, same⟩] at there
    exact filed key child there

end Store

/-! ### Rollouts -/

namespace Deployment

/-- The generation that was last rolled out. -/
def observed (deployment : Deployment) : Int :=
  (deployment.status.bind DeploymentStatus.observedGeneration).getD 0

/-- What was last asked of a deployment is rolled out, and a number of pods is ready. What is not
reported counts as zero. -/
structure RolledOut (deployment : Deployment) (wanted : Int) : Prop where
  generation : deployment.metadata.generation.getD 0 ≤ deployment.observed
  replicas : wanted ≤ (deployment.status.bind DeploymentStatus.readyReplicas).getD 0

/-- What was last asked of a deployment is not rolled out. -/
def Lags (deployment : Deployment) : Prop :=
  deployment.observed < deployment.metadata.generation.getD 0

theorem isRolledOut_iff {deployment : Deployment} {wanted : Int} :
    deployment.isRolledOut wanted ↔ deployment.RolledOut wanted := by
  unfold isRolledOut
  rw [Bool.and_eq_true, decide_eq_true_eq, decide_eq_true_eq]
  have observed : (deployment.status.getD {}).observedGeneration.getD 0 = deployment.observed := by
    unfold Deployment.observed
    cases deployment.status <;> rfl
  have replicas : (deployment.status.getD {}).readyReplicas.getD 0 =
      (deployment.status.bind DeploymentStatus.readyReplicas).getD 0 := by
    cases deployment.status <;> rfl
  rw [observed, replicas]
  exact ⟨fun both => ⟨both.1, both.2⟩, fun rolledOut => ⟨rolledOut.generation, rolledOut.replicas⟩⟩

theorem Lags.not_rolledOut {deployment : Deployment} {wanted : Int} (lags : deployment.Lags) :
    ¬ deployment.RolledOut wanted :=
  fun rolledOut => Int.not_lt.mpr rolledOut.generation lags

end Deployment

namespace Builder

variable {cluster : Cluster} {builder : Builder} {observed : Child} {deployment : Deployment}

/-- What is observed about a deployment is no builder's business. -/
theorem status_update
    (updated : builder.update cluster observed = .ok (.deployment deployment)) :
    ∃ held, observed = .deployment held ∧ deployment.status = held.status := by
  rcases update_cases updated with
    ⟨exposure, held, result, _, _, same, _⟩ | ⟨workload, held, result, _, rfl, same, applied⟩
  · cases same
  · cases same
    rcases Workload.apply_eq_ok applied with ⟨metadata, _, rfl⟩
    exact ⟨held, rfl, rfl⟩

theorem status_skeleton {held : Deployment} (same : builder.skeleton cluster = .deployment held) :
    held.status = none := by
  unfold skeleton at same
  split at same
  · cases same
  · cases same
    rfl

end Builder

namespace Store

/-- The deployments of a cluster, in the order in which they are built. -/
def deployments (cluster : Cluster) (store : Store) : List Deployment :=
  Builder.all.filterMap fun builder =>
    (store.children.get? (builder.key cluster)).bind Child.deployment?

/-- The deployment of a cluster that bears the name of a service. -/
def deployment? (cluster : Cluster) (role : Role) (store : Store) : Option Deployment :=
  (store.deployments cluster).find? fun deployment =>
    deployment.metadata.name = some (cluster.childName role.text)

/-- No deployment is reported to be rolled out further than it was ever asked. -/
def Truthful (store : Store) : Prop :=
  ∀ key deployment, store.children.get? key = some (.deployment deployment) →
    deployment.observed ≤ deployment.metadata.generation.getD 0

variable {store later : Store} {cluster : Cluster}

/-- The children that converging gives are those that are stored after it. -/
theorem convergeAll_ok {builders : List Builder} {children : List Child}
    (versioned : store.Versioned)
    (distinct : builders.Pairwise fun left right => left.key cluster ≠ right.key cluster)
    (converges : store.convergeAll cluster builders = (.ok children, later)) :
    children = builders.filterMap fun builder => later.children.get? (builder.key cluster) := by
  induction builders generalizing store children with
  | nil =>
      cases converges
      rfl
  | cons builder rest ih =>
      rcases List.pairwise_cons.mp distinct with ⟨apart, distinct⟩
      have progress := progress_converge cluster builder store
      rw [convergeAll] at converges
      cases first : store.converge cluster builder with
      | mk outcome middle =>
          rw [first] at converges progress
          cases outcome with
          | error error => cases converges
          | ok child =>
              have shaped := converge_ok versioned first
              have follows : middle.Versioned := progress.versioned versioned
              dsimp only at converges
              cases remaining : middle.convergeAll cluster rest with
              | mk outcome final =>
                  rw [remaining] at converges
                  cases outcome with
                  | error error => cases converges
                  | ok others =>
                      cases converges
                      have stays := (converged_convergeAll follows distinct remaining).others
                        (builder.key cluster) fun one there => (apart one there).symm
                      rw [List.filterMap_cons, stays, shaped.stored,
                        ← ih follows distinct remaining]
                      cases child <;> rfl

/-- What a builder has created or replaced is not rolled out. -/
theorem lags_of_makes {builder : Builder} {before after : Option Child} {deployment : Deployment}
    (makes : builder.Makes cluster before after) (stored : after = some (.deployment deployment))
    (truthful : ∀ held, before = some (.deployment held) →
      held.observed ≤ held.metadata.generation.getD 0) :
    after = before ∨ deployment.Lags := by
  cases makes with
  | keeps => exact .inl rfl
  | @creates child uid version enabled updated =>
      right
      cases child with
      | service object => cases stored
      | deployment made =>
          cases stored
          rcases Builder.status_update updated with ⟨held, isSkeleton, status⟩
          have unreported : made.status = none := status.trans (Builder.status_skeleton isSkeleton)
          change (made.status.bind _).getD 0 < 1
          rw [unreported]
          decide
  | @replaces observed child uid version enabled own updated =>
      right
      cases child with
      | service object => cases stored
      | deployment made =>
          cases stored
          rcases Builder.status_update updated with ⟨held, rfl, status⟩
          have bound := truthful held rfl
          unfold Deployment.observed at bound
          change (made.status.bind _).getD 0 < held.metadata.generation.getD 0 + 1
          rw [status]
          omega
  | deletes => cases stored

/-! ### Deployments by their keys -/

/-- The deployments of a cluster are stored under the keys of builders. -/
theorem mem_deployments {deployment : Deployment} :
    deployment ∈ store.deployments cluster ↔ ∃ builder ∈ Builder.all,
      store.children.get? (builder.key cluster) = some (.deployment deployment) := by
  unfold deployments
  rw [List.mem_filterMap]
  refine exists_congr fun builder => and_congr_right fun _ => ?_
  cases store.children.get? (builder.key cluster) with
  | none => exact ⟨nofun, nofun⟩
  | some child =>
      cases child with
      | service object => exact ⟨nofun, nofun⟩
      | deployment object =>
          refine ⟨?_, ?_⟩ <;>
          · rintro ⟨⟩
            rfl

theorem childName_ne_empty (cluster : Cluster) (suffix : String) :
    cluster.childName suffix ≠ "" := by
  intro empty
  have length := congrArg String.length empty
  simp [Cluster.childName, String.length_append] at length

/-- A deployment that stands under its own key bears the name that its builder gives it. -/
theorem name_of_filed {builder : Builder} {deployment : Deployment}
    (filed : (Child.deployment deployment).key = builder.key cluster) :
    builder.kind = .deployment ∧
      deployment.metadata.name = some (cluster.childName builder.suffix) := by
  rw [Builder.key_eq] at filed
  have kind : ChildKind.deployment = builder.kind := congrArg ChildKey.kind filed
  have name : deployment.metadata.name.getD "" = cluster.childName builder.suffix :=
    congrArg (fun key => key.object.name) filed
  refine ⟨kind.symm, ?_⟩
  cases named : deployment.metadata.name with
  | none =>
      rw [named] at name
      exact absurd name.symm (childName_ne_empty cluster _)
  | some text =>
      rw [named] at name
      exact congrArg some name

theorem roleDeployment_mem (role : Role) : Builder.roleDeployment role ∈ Builder.all :=
  Builder.mem_all _

/-- Where children stand under their own keys, the deployment that bears the name of a service is
the one under its key. -/
theorem deployment?_eq (filed : store.ChildrenFiled) (cluster : Cluster) (role : Role) :
    store.deployment? cluster role =
      (store.children.get? ((Builder.roleDeployment role).key cluster)).bind Child.deployment? := by
  have named (deployment : Deployment) (there : deployment ∈ store.deployments cluster)
      (name : deployment.metadata.name = some (cluster.childName role.text)) :
      store.children.get? ((Builder.roleDeployment role).key cluster) =
        some (.deployment deployment) := by
    rcases mem_deployments.mp there with ⟨builder, known, stored⟩
    rcases name_of_filed (filed _ _ stored) with ⟨kind, isNamed⟩
    have suffix : builder.suffix = role.text :=
      (String.append_right_inj _).mp (Option.some_inj.mp (isNamed.symm.trans name))
    have own : builder = .roleDeployment role := Builder.eq_of_kind_suffix kind suffix
    rw [← own]
    exact stored
  unfold deployment?
  cases found : (store.deployments cluster).find? _ with
  | some deployment =>
      have name := List.find?_some found
      rw [decide_eq_true_eq] at name
      rw [named deployment (List.mem_of_find?_eq_some found) name]
      rfl
  | none =>
      cases stored : store.children.get? ((Builder.roleDeployment role).key cluster) with
      | none => rfl
      | some child =>
          cases child with
          | service object => rfl
          | deployment object =>
              have there : object ∈ store.deployments cluster :=
                mem_deployments.mpr ⟨_, roleDeployment_mem role, stored⟩
              have absent := List.find?_eq_none.mp found object there
              exact absurd (decide_eq_true (name_of_filed (filed _ _ stored)).2) absent

end Store

end ClusterOperator
