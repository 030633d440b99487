import Mathlib.Data.Finset.Card
import Mathlib.Data.String.Basic
import ClusterOperator.Proofs.Index.Basic

/-!
# What is recorded in an index

An index is rebuilt, and namespaces are upserted and removed, in any order. A namespace is recorded
under the cluster that it named when it was last listed, unless it was left out of a later rebuild
or removed since. What is listed under the clusters is exactly what is recorded.
-/

namespace ClusterOperator

/-- The cluster that a namespace names: in the Kubernetes namespace that it gives, or in its own one
where it gives none or an empty one. -/
def Namespace.Names (ns : Namespace) (cluster : ObjectKey) : Prop :=
  cluster.name = ns.spec.cluster.name ∧
    ((∃ given, ns.spec.cluster.ns = some given ∧ given ≠ "" ∧ cluster.ns = given) ∨
      (ns.spec.cluster.ns = none ∨ ns.spec.cluster.ns = some "") ∧ cluster.ns = ns.ns)

theorem Namespace.clusterKey_eq_iff {ns : Namespace} {cluster : ObjectKey} :
    ns.clusterKey = cluster ↔ ns.Names cluster := by
  rcases cluster with ⟨space, name⟩
  unfold Names clusterKey ClusterReference.resolve
  cases given : ns.spec.cluster.ns with
  | none => simp [and_comm, eq_comm]
  | some text =>
      by_cases empty : text = ""
      · simp [empty, and_comm, eq_comm]
      · have apart : space = text ∧ ¬ space = "" ↔ space = text :=
          and_iff_left_of_imp fun same => same ▸ empty
        simp [empty, apart, and_comm, eq_comm]

theorem ObjectKey.compare_eq_lt_iff {left right : ObjectKey} :
    compare left right = .lt ↔
      left.ns < right.ns ∨ left.ns = right.ns ∧ left.name < right.name := by
  change (compare left.ns right.ns).then (compare left.name right.name) = .lt ↔ _
  rw [Ordering.then_eq_lt, compare_lt_iff_lt, compare_lt_iff_lt, compare_eq_iff_eq]

/-- The last item of a list that counts is one that fits. -/
def LastFits {α : Type} (fits passes : α → Prop) (items : List α) : Prop :=
  ∃ front item back, items = front ++ item :: back ∧ fits item ∧ ∀ later ∈ back, passes later

theorem not_lastFits_nil {α : Type} {fits passes : α → Prop} : ¬ LastFits fits passes [] := by
  rintro ⟨front, item, back, split, _⟩
  simp at split

theorem lastFits_concat {α : Type} {fits passes : α → Prop} {items : List α} {last : α} :
    LastFits fits passes (items ++ [last]) ↔
      fits last ∨ passes last ∧ LastFits fits passes items := by
  constructor
  · rintro ⟨front, item, back, split, fit, pass⟩
    rcases List.eq_nil_or_concat' back with rfl | ⟨init, final, rfl⟩
    · rcases List.append_inj' split rfl with ⟨_, same⟩
      cases same
      exact .inl fit
    · rw [← List.cons_append, ← List.append_assoc] at split
      rcases List.append_inj' split rfl with ⟨rfl, same⟩
      cases same
      refine .inr ⟨pass last (by simp), front, item, init, rfl, fit, fun later there => ?_⟩
      exact pass later (List.mem_append_left _ there)
  · rintro (fit | ⟨passLast, front, item, back, rfl, fit, pass⟩)
    · exact ⟨items, last, [], rfl, fit, List.forall_mem_nil _⟩
    · refine ⟨front, item, back ++ [last], by simp, fit, fun later there => ?_⟩
      rcases List.mem_append.mp there with inside | isLast
      · exact pass later inside
      · rw [List.mem_singleton.mp isLast]
        exact passLast

namespace DependencyIndex

/-- What can be done to an index. -/
inductive Operation where
  | rebuild (namespaces : List Namespace)
  | upsert (ns : Namespace)
  | remove (key : ObjectKey)

namespace Operation

/-- The index once something is done to it. -/
def apply (index : DependencyIndex) : Operation → DependencyIndex
  | rebuild namespaces => .rebuild namespaces
  | upsert ns => index.upsert ns
  | remove key => index.remove key

/-- The operation records a namespace under a cluster. Of a namespace that a rebuild lists more than
once the last occurrence counts. -/
def Records (key cluster : ObjectKey) : Operation → Prop
  | rebuild namespaces =>
      LastFits (fun ns => ns.key = key ∧ ns.Names cluster) (fun ns => ns.key ≠ key) namespaces
  | upsert ns => ns.key = key ∧ ns.Names cluster
  | remove _ => False

/-- The operation leaves what is recorded of a namespace alone; a rebuild begins from nothing. -/
def Spares (key : ObjectKey) : Operation → Prop
  | rebuild _ => False
  | upsert ns => ns.key ≠ key
  | remove other => other ≠ key

end Operation

/-- The index after a sequence of operations. -/
def after (operations : List Operation) : DependencyIndex := operations.foldl Operation.apply {}

/-- After a sequence of operations a namespace is recorded under a cluster. -/
def Recorded (operations : List Operation) (key cluster : ObjectKey) : Prop :=
  LastFits (Operation.Records key cluster) (Operation.Spares key) operations

variable {index : DependencyIndex} {key cluster : ObjectKey}

theorem get?_clusterOf_rebuild_eq_some_iff {namespaces : List Namespace} :
    (rebuild namespaces).clusterOf.get? key = some cluster ↔
      (Operation.rebuild namespaces).Records key cluster := by
  rw [clusterOf_rebuild]
  induction namespaces using List.reverseRecOn with
  | nil => exact iff_of_false nofun not_lastFits_nil
  | append_singleton init last ih =>
      rw [List.foldl_append, List.foldl_cons, List.foldl_nil, SortedMap.get?_insert,
        Operation.Records, lastFits_concat]
      by_cases same : last.key = key
      · simp [same, Namespace.clusterKey_eq_iff]
      · simpa [same, Operation.Records] using ih

/-- What one operation does to what is recorded. -/
theorem get?_clusterOf_apply_eq_some_iff (operation : Operation) :
    (operation.apply index).clusterOf.get? key = some cluster ↔
      operation.Records key cluster ∨
        operation.Spares key ∧ index.clusterOf.get? key = some cluster := by
  cases operation with
  | rebuild namespaces =>
      rw [Operation.apply, get?_clusterOf_rebuild_eq_some_iff]
      simp [Operation.Spares]
  | upsert ns =>
      rw [Operation.apply, clusterOf_upsert, SortedMap.get?_insert]
      by_cases same : ns.key = key
      · simp [same, Operation.Records, Operation.Spares, Namespace.clusterKey_eq_iff]
      · simp [same, Operation.Records, Operation.Spares]
  | remove other =>
      rw [Operation.apply, clusterOf_remove, SortedMap.get?_erase]
      by_cases same : other = key
      · simp [same, Operation.Records, Operation.Spares]
      · simp [same, Operation.Records, Operation.Spares]

theorem get?_clusterOf_after_eq_some_iff {operations : List Operation} :
    (after operations).clusterOf.get? key = some cluster ↔ Recorded operations key cluster := by
  induction operations using List.reverseRecOn with
  | nil => exact iff_of_false nofun not_lastFits_nil
  | append_singleton init last ih =>
      rw [after, List.foldl_append, List.foldl_cons, List.foldl_nil, ← after,
        get?_clusterOf_apply_eq_some_iff, ih]
      exact lastFits_concat.symm

theorem Consistent.apply (consistent : index.Consistent) (operation : Operation) :
    (operation.apply index).Consistent := by
  cases operation with
  | rebuild namespaces => exact consistent_rebuild namespaces
  | upsert ns => exact consistent.upsert ns
  | remove key => exact consistent.remove key

theorem consistent_after (operations : List Operation) : (after operations).Consistent := by
  induction operations using List.reverseRecOn with
  | nil => exact consistent_empty
  | append_singleton init last ih =>
      rw [after, List.foldl_append]
      exact ih.apply last

/-- The keys that an index knows. -/
theorem exists_finset_keys (index : DependencyIndex) :
    ∃ keys : Finset ObjectKey, keys.card = index.size ∧
      ∀ key, key ∈ keys ↔ ∃ cluster, index.clusterOf.get? key = some cluster := by
  refine ⟨index.clusterOf.keys.toFinset, ?_, fun key => ?_⟩
  · have nodup : index.clusterOf.keys.Nodup := index.clusterOf.nodup_keys
    rw [List.toFinset_card_of_nodup nodup]
    exact List.length_map _
  · rw [List.mem_toFinset, SortedMap.mem_keys, SortedMap.contains, Option.isSome_iff_exists]

/-- After any sequence of operations, each cluster has the namespaces that are recorded under it, by
Kubernetes namespace and then by name, and no other ones. The size is the number of the namespaces
that are recorded; each of them is listed under one cluster, and no cluster is kept without
namespaces. -/
theorem recorded_after (operations : List Operation) :
    (∀ cluster,
      ((after operations).dependentsOf cluster).Pairwise (fun earlier later =>
        earlier.ns < later.ns ∨ earlier.ns = later.ns ∧ earlier.name < later.name) ∧
      ∀ key, key ∈ (after operations).dependentsOf cluster ↔ Recorded operations key cluster) ∧
    (∃ keys : Finset ObjectKey, keys.card = (after operations).size ∧
      ∀ key, key ∈ keys ↔ ∃ cluster, Recorded operations key cluster) ∧
    ((after operations).isEmpty ↔ ∀ key cluster, ¬ Recorded operations key cluster) ∧
    (∀ key, (∃ cluster, Recorded operations key cluster) →
      ∃! cluster, key ∈ (after operations).dependentsOf cluster) ∧
    ∀ cluster listed, (after operations).dependents.get? cluster = some listed →
      ∃ key, key ∈ listed.keys := by
  have consistent := consistent_after operations
  have listed (key cluster : ObjectKey) :
      key ∈ (after operations).dependentsOf cluster ↔ Recorded operations key cluster := by
    rw [consistent.mem_dependentsOf, get?_clusterOf_after_eq_some_iff]
  have known := exists_finset_keys (after operations)
  simp only [get?_clusterOf_after_eq_some_iff] at known
  refine ⟨fun cluster => ⟨?_, fun key => listed key cluster⟩, known, ?_, ?_, ?_⟩
  · exact (SortedMap.sorted _).imp ObjectKey.compare_eq_lt_iff.mp
  · rcases known with ⟨keys, card, there⟩
    rw [isEmpty, decide_eq_true_iff, ← card, Finset.card_eq_zero, Finset.eq_empty_iff_forall_notMem]
    simp only [there, not_exists]
  · rintro key ⟨cluster, recorded⟩
    refine ⟨cluster, (listed key cluster).mpr recorded, fun other also => ?_⟩
    have first := get?_clusterOf_after_eq_some_iff.mpr recorded
    have second := consistent.mem_dependentsOf.mp also
    exact Option.some_inj.mp (second.symm.trans first)
  · intro cluster keys kept
    have occupied := consistent.occupied cluster keys kept
    rcases keys with ⟨_ | ⟨⟨key, _⟩, rest⟩, sorted⟩
    · cases occupied
    · exact ⟨key, List.mem_cons_self ..⟩

end DependencyIndex

end ClusterOperator
