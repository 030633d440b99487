import ClusterOperator.DependencyIndex
import ClusterOperator.SortedMap.Lemmas

/-!
# The two maps of the index

The first map of an index says of each cluster what the second one says of each namespace, read the
other way round, and keeps no cluster without namespaces. Whatever is done to an index keeps it so.
An index is then determined by its second map, and of that it is easy to say what becomes of it.
-/

namespace ClusterOperator.DependencyIndex

variable {index other : DependencyIndex} {cluster dependent key : ObjectKey}

/-- The namespaces that are listed under a cluster. -/
def under (index : DependencyIndex) (cluster : ObjectKey) : KeySet :=
  (index.dependents.get? cluster).getD ∅

/-- The two maps say the same, and there is no cluster without namespaces. -/
structure Consistent (index : DependencyIndex) : Prop where
  listed : ∀ cluster dependent,
    (index.under cluster).get? dependent = some () ↔ index.clusterOf.get? dependent = some cluster
  occupied : ∀ cluster keys, index.dependents.get? cluster = some keys → keys.isEmpty = false

theorem consistent_empty : Consistent {} := by
  refine ⟨fun cluster dependent => ?_, fun cluster keys there => ?_⟩
  · exact iff_of_false (Option.some_ne_none ()).symm (Option.some_ne_none cluster).symm
  · cases there

theorem Consistent.get?_under (consistent : index.Consistent) (cluster dependent : ObjectKey) :
    (index.under cluster).get? dependent =
      if index.clusterOf.get? dependent = some cluster then some () else none := by
  split
  · exact (consistent.listed cluster dependent).mpr ‹_›
  · exact Option.eq_none_iff_forall_ne_some.mpr fun _ there =>
      absurd ((consistent.listed cluster dependent).mp there) ‹_›

theorem Consistent.get?_dependents (consistent : index.Consistent) (cluster : ObjectKey) :
    index.dependents.get? cluster =
      if (index.under cluster).isEmpty then none else some (index.under cluster) := by
  unfold under
  cases there : index.dependents.get? cluster with
  | none => rfl
  | some keys =>
      rw [Option.getD_some, consistent.occupied cluster keys there]
      rfl

/-- An index is determined by its second map. -/
theorem Consistent.ext (consistent : index.Consistent) (also : other.Consistent)
    (same : index.clusterOf = other.clusterOf) : index = other := by
  have under (cluster : ObjectKey) : index.under cluster = other.under cluster := by
    apply SortedMap.ext_get?
    intro dependent
    rw [consistent.get?_under, also.get?_under, same]
  have dependents : index.dependents = other.dependents := by
    apply SortedMap.ext_get?
    intro cluster
    rw [consistent.get?_dependents, also.get?_dependents, under]
  cases index
  cases other
  cases dependents
  cases same
  rfl

theorem Consistent.mem_dependentsOf (consistent : index.Consistent) :
    dependent ∈ index.dependentsOf cluster ↔ index.clusterOf.get? dependent = some cluster := by
  refine SortedMap.mem_keys.trans ?_
  rw [← consistent.listed cluster dependent, SortedMap.contains, Option.isSome_iff_exists]
  constructor
  · rintro ⟨_, there⟩
    exact there
  · intro there
    exact ⟨(), there⟩

/-! ### What is done to an index -/

theorem clusterOf_remove (index : DependencyIndex) (dependent : ObjectKey) :
    (index.remove dependent).clusterOf = index.clusterOf.erase dependent := by
  unfold remove
  split
  · rename_i absent
    apply SortedMap.ext_get?
    intro other
    rw [SortedMap.get?_erase]
    split
    · rename_i same
      rw [← same, absent]
    · rfl
  · rfl

theorem clusterOf_link (index : DependencyIndex) (dependent cluster : ObjectKey) :
    (index.link dependent cluster).clusterOf = index.clusterOf.insert dependent cluster := by
  dsimp only [link]
  rw [clusterOf_remove]
  apply SortedMap.ext_get?
  intro other
  simp only [SortedMap.get?_insert, SortedMap.get?_erase]
  split <;> rfl

theorem clusterOf_upsert (index : DependencyIndex) (ns : Namespace) :
    (index.upsert ns).clusterOf = index.clusterOf.insert ns.key ns.clusterKey := by
  unfold upsert
  split
  · rename_i listed
    exact (SortedMap.insert_get? listed).symm
  · exact clusterOf_link index ns.key ns.clusterKey

theorem clusterOf_rebuild (namespaces : List Namespace) :
    (rebuild namespaces).clusterOf =
      namespaces.foldl (fun map ns => map.insert ns.key ns.clusterKey) ∅ := by
  refine (List.foldl_hom clusterOf ?_).symm
  intro index ns
  exact (clusterOf_link index ns.key ns.clusterKey).symm

/-- The namespace leaves the cluster that it is listed under. -/
theorem under_remove (there : index.clusterOf.get? dependent = some cluster) (other : ObjectKey) :
    (index.remove dependent).under other =
      if cluster = other then (index.under cluster).erase dependent else index.under other := by
  unfold remove under
  simp only [there]
  split
  · rename_i unknown
    rw [unknown]
    split
    · rename_i same
      rw [← same, unknown]
      rfl
    · rfl
  · rename_i keys known
    rw [known]
    split
    · rename_i bare
      rw [SortedMap.get?_erase]
      split
      · exact (SortedMap.isEmpty_iff.mp bare).symm
      · rfl
    · rw [SortedMap.get?_insert]
      split <;> rfl

theorem under_link (index : DependencyIndex) (dependent cluster other : ObjectKey) :
    (index.link dependent cluster).under other =
      if cluster = other then ((index.remove dependent).under cluster).insert dependent ()
      else (index.remove dependent).under other := by
  dsimp only [link, under]
  rw [SortedMap.get?_insert]
  split <;> rfl

theorem Consistent.remove (consistent : index.Consistent) (dependent : ObjectKey) :
    (index.remove dependent).Consistent := by
  cases there : index.clusterOf.get? dependent with
  | none =>
      have same : index.remove dependent = index := by
        unfold DependencyIndex.remove
        rw [there]
      rw [same]
      exact consistent
  | some cluster =>
      refine ⟨fun other key => ?_, fun other keys kept => ?_⟩
      · rw [under_remove there, clusterOf_remove, SortedMap.get?_erase]
        by_cases isIt : dependent = key
        · subst isIt
          rw [if_pos rfl]
          refine iff_of_false ?_ (by simp)
          split
          · simp [SortedMap.get?_erase]
          · rename_i apart
            rw [consistent.listed, there]
            exact fun same => apart (Option.some_inj.mp same)
        · rw [if_neg isIt]
          split
          · rename_i same
            rw [SortedMap.get?_erase, if_neg isIt, same]
            exact consistent.listed other key
          · exact consistent.listed other key
      · unfold DependencyIndex.remove at kept
        simp only [there] at kept
        split at kept
        · exact consistent.occupied other keys kept
        · split at kept
          · rw [SortedMap.get?_erase] at kept
            split at kept
            · cases kept
            · exact consistent.occupied other keys kept
          · rename_i occupied
            rw [SortedMap.get?_insert] at kept
            split at kept
            · cases kept
              exact eq_false_of_ne_true occupied
            · exact consistent.occupied other keys kept

theorem Consistent.link (consistent : index.Consistent) (dependent cluster : ObjectKey) :
    (index.link dependent cluster).Consistent := by
  have removed := consistent.remove dependent
  refine ⟨fun other key => ?_, fun other keys kept => ?_⟩
  · rw [under_link, clusterOf_link, SortedMap.get?_insert]
    have apart := removed.listed other key
    rw [clusterOf_remove, SortedMap.get?_erase] at apart
    split
    · rename_i same
      subst same
      rw [SortedMap.get?_insert]
      split
      · simp
      · rename_i isNot
        rw [if_neg isNot] at apart
        exact apart
    · rename_i notHere
      rw [apart]
      split
      · refine iff_of_false (by simp) fun same => notHere (Option.some_inj.mp same)
      · rfl
  · dsimp only [DependencyIndex.link] at kept
    rw [SortedMap.get?_insert] at kept
    split at kept
    · cases kept
      refine eq_false_of_ne_true fun bare => ?_
      have absent := congrArg (SortedMap.get? · dependent) (SortedMap.isEmpty_iff.mp bare)
      simp only [SortedMap.get?_insert_self] at absent
      cases absent
    · exact removed.occupied other keys kept

theorem Consistent.upsert (consistent : index.Consistent) (ns : Namespace) :
    (index.upsert ns).Consistent := by
  unfold DependencyIndex.upsert
  split
  · exact consistent
  · exact consistent.link ns.key ns.clusterKey

theorem consistent_rebuild (namespaces : List Namespace) : (rebuild namespaces).Consistent := by
  have more (index : DependencyIndex) (consistent : index.Consistent) :
      (namespaces.foldl (fun index ns => index.link ns.key ns.clusterKey) index).Consistent := by
    induction namespaces generalizing index with
    | nil => exact consistent
    | cons first rest ih => exact ih _ (consistent.link first.key first.clusterKey)
  exact more {} consistent_empty

/-- The index of a table in which every namespace stands under its own key. -/
theorem get?_clusterOf_rebuild {table : SortedMap ObjectKey Namespace}
    (own : ∀ key held, table.get? key = some held → held.key = key) (key : ObjectKey) :
    (rebuild (table.entries.map Prod.snd)).clusterOf.get? key =
      (table.get? key).map Namespace.clusterKey := by
  let clusters : SortedMap ObjectKey ObjectKey := table.mapValues fun _ ns => ns.clusterKey
  have entries : table.entries.map (fun entry => (entry.2.key, entry.2.clusterKey)) =
      clusters.entries := by
    refine List.map_congr_left fun entry there => ?_
    rw [own entry.1 entry.2 (SortedMap.get?_eq_some_iff_mem.mpr there)]
  have isOverlay : (rebuild (table.entries.map Prod.snd)).clusterOf =
      SortedMap.overlay ∅ clusters := by
    rw [clusterOf_rebuild, SortedMap.overlay, ← entries, List.foldl_map, List.foldl_map]
  rw [isOverlay, SortedMap.get?_overlay, SortedMap.get?_mapValues]
  exact Option.or_none

/-- An index that was filled and changed in whatever way. -/
inductive Built : DependencyIndex → Prop
  | start : Built {}
  | rebuilt (namespaces : List Namespace) : Built (rebuild namespaces)
  | upserted {index : DependencyIndex} (built : Built index) (ns : Namespace) :
      Built (index.upsert ns)
  | removed {index : DependencyIndex} (built : Built index) (key : ObjectKey) :
      Built (index.remove key)

theorem Built.consistent (built : index.Built) : index.Consistent := by
  induction built with
  | start => exact consistent_empty
  | rebuilt namespaces => exact consistent_rebuild namespaces
  | upserted built ns ih => exact ih.upsert ns
  | removed built key ih => exact ih.remove key

end ClusterOperator.DependencyIndex
