import ClusterOperator.Proofs.Builder.Shape

/-!
# Keys of child objects

No two builders describe the same object, be it for one cluster or for two, whatever the clusters
are called. An object that is brought into shape keeps its key and whatever else tells it apart.
-/

namespace ClusterOperator

variable {cluster : Cluster} {labels : StringMap String} {metadata adopted : Metadata}

/-- The metadata but for what bringing an object into shape changes. -/
def Metadata.identity (metadata : Metadata) : Metadata :=
  { metadata with labels := none, annotations := none, ownerReferences := none }

theorem Cluster.identity_adopt (adopts : cluster.adopt labels metadata = .ok adopted) :
    adopted.identity = metadata.identity := by
  rcases control_eq_ok adopts with ⟨owner, _, _, rfl⟩
  rfl

theorem Exposure.identity_apply {exposure : Exposure} {service shaped : Service}
    (applied : exposure.apply cluster service = .ok shaped) :
    shaped.metadata.identity = service.metadata.identity := by
  rcases apply_eq_ok applied with ⟨metadata, adopts, rfl⟩
  exact Cluster.identity_adopt adopts

theorem Workload.identity_apply {workload : Workload} {deployment shaped : Deployment}
    (applied : workload.apply cluster deployment = .ok shaped) :
    shaped.metadata.identity = deployment.metadata.identity := by
  rcases apply_eq_ok applied with ⟨metadata, adopts, rfl⟩
  exact Cluster.identity_adopt adopts

namespace Builder

variable {builder other : Builder} {observed shaped : Child}

theorem identity_update (updated : builder.update cluster observed = .ok shaped) :
    shaped.kind = observed.kind ∧ shaped.metadata.identity = observed.metadata.identity := by
  rcases update_cases updated with
    ⟨exposure, held, result, _, rfl, rfl, applied⟩ | ⟨workload, held, result, _, rfl, rfl, applied⟩
  · exact ⟨rfl, Exposure.identity_apply applied⟩
  · exact ⟨rfl, Workload.identity_apply applied⟩

theorem key_update (updated : builder.update cluster observed = .ok shaped) :
    shaped.key = observed.key := by
  rcases identity_update updated with ⟨kind, identity⟩
  -- the key is read off the part of the metadata that is kept
  change (⟨shaped.kind, shaped.metadata.identity.storageKey⟩ : ChildKey) =
    ⟨observed.kind, observed.metadata.identity.storageKey⟩
  rw [kind, identity]

theorem resourceVersion_update (updated : builder.update cluster observed = .ok shaped) :
    shaped.metadata.resourceVersion = observed.metadata.resourceVersion := by
  have version : shaped.metadata.identity.resourceVersion =
      observed.metadata.identity.resourceVersion :=
    congrArg Metadata.resourceVersion (identity_update updated).2
  exact version

theorem kind_skeleton (builder : Builder) (cluster : Cluster) :
    (builder.skeleton cluster).kind = builder.kind := by
  unfold skeleton
  cases kind : builder.kind <;> rfl

theorem metadata_skeleton (builder : Builder) (cluster : Cluster) :
    (builder.skeleton cluster).metadata = builder.metadata cluster := by
  unfold skeleton
  cases builder.kind <;> rfl

theorem key_eq (builder : Builder) (cluster : Cluster) :
    builder.key cluster =
      ⟨builder.kind, cluster.metadata.ns.getD "", cluster.childName builder.suffix⟩ := by
  rw [key, Child.key, kind_skeleton, metadata_skeleton]
  rfl

theorem mem_all (builder : Builder) : builder ∈ all := by
  cases builder with
  | headlessService role => cases role <;> decide
  | roleDeployment role => cases role <;> decide
  | _ => decide

/-- No builder is there twice. -/
theorem nodup_all : all.Nodup := by decide

theorem eq_of_kind_suffix (kind : builder.kind = other.kind)
    (suffix : builder.suffix = other.suffix) : builder = other := by
  have unique : ∀ one ∈ all, ∀ other ∈ all, one.kind = other.kind → one.suffix = other.suffix →
      one = other := by decide
  exact unique builder (mem_all builder) other (mem_all other) kind suffix

/-- No suffix of a name ends in another one. -/
theorem suffix_eq_of_isSuffix
    (ends : ("-" ++ builder.suffix).toList <:+ ("-" ++ other.suffix).toList) :
    builder.suffix = other.suffix := by
  have apart : ∀ one ∈ all, ∀ other ∈ all,
      ("-" ++ one.suffix).toList <:+ ("-" ++ other.suffix).toList → one.suffix = other.suffix := by
    decide
  exact apart builder (mem_all builder) other (mem_all other) ends

variable {second : Cluster}

/-- The name of a child tells the name of its cluster. -/
theorem name_of_childName_eq
    (same : cluster.childName builder.suffix = second.childName other.suffix) :
    cluster.name = second.name := by
  have lists : cluster.name.toList ++ ("-" ++ builder.suffix).toList =
      second.name.toList ++ ("-" ++ other.suffix).toList := by
    rw [← String.toList_append, ← String.toList_append, ← String.append_assoc,
      ← String.append_assoc]
    exact congrArg String.toList same
  have equal : builder.suffix = other.suffix := by
    have left := List.suffix_append cluster.name.toList ("-" ++ builder.suffix).toList
    have right := List.suffix_append second.name.toList ("-" ++ other.suffix).toList
    rw [lists] at left
    rcases List.suffix_or_suffix_of_suffix left right with ends | ends
    · exact suffix_eq_of_isSuffix ends
    · exact (suffix_eq_of_isSuffix ends).symm
  rw [equal] at lists
  exact String.toList_inj.mp (List.append_cancel_right lists)

/-- The name of a child tells its cluster and, with its kind, the builder. -/
theorem eq_of_kind_childName (kind : builder.kind = other.kind)
    (name : cluster.childName builder.suffix = second.childName other.suffix) :
    cluster.name = second.name ∧ builder = other := by
  have sameName := name_of_childName_eq name
  refine ⟨sameName, eq_of_kind_suffix kind ?_⟩
  rw [Cluster.childName, Cluster.childName, sameName] at name
  exact (String.append_right_inj _).mp name

/-- An object belongs to one cluster and to one builder. -/
theorem key_eq_iff :
    builder.key cluster = other.key second ↔ cluster.key = second.key ∧ builder = other := by
  rw [key_eq, key_eq]
  constructor
  · intro same
    have ns : cluster.metadata.ns.getD "" = second.metadata.ns.getD "" :=
      congrArg (fun key => key.object.ns) same
    rcases eq_of_kind_childName (congrArg ChildKey.kind same)
      (congrArg (fun key => key.object.name) same) with ⟨name, equal⟩
    refine ⟨?_, equal⟩
    change (⟨cluster.metadata.ns.getD "", cluster.name⟩ : ObjectKey) =
      ⟨second.metadata.ns.getD "", second.name⟩
    rw [ns, name]
  · rintro ⟨clusters, rfl⟩
    have ns : cluster.metadata.ns.getD "" = second.metadata.ns.getD "" :=
      congrArg ObjectKey.ns clusters
    have name : cluster.name = second.name := congrArg ObjectKey.name clusters
    rw [ns, Cluster.childName, Cluster.childName, name]

/-- An object of a cluster belongs to one builder. -/
theorem key_injective (same : builder.key cluster = other.key cluster) : builder = other :=
  (key_eq_iff.mp same).2

/-- The objects of a cluster have different keys. -/
theorem pairwise_key_ne (cluster : Cluster) :
    all.Pairwise fun left right => left.key cluster ≠ right.key cluster :=
  nodup_all.imp fun different same => different (key_injective same)

end Builder

end ClusterOperator
