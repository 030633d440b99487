import ClusterOperator.Pass.Children
import ClusterOperator.Proofs.Builder.Keys
import ClusterOperator.Proofs.Program.Perform
import ClusterOperator.Proofs.Store.Version

/-!
# Converging children

What a pass does to the children of its cluster when nobody else writes. Once it has succeeded every
child is in shape, and where it has stopped with an error all children before the one of the error
are: either way the next time comes to the same, and changes nothing.
-/

namespace ClusterOperator

namespace Store

variable {store later other : Store}

/-- The same objects, and as many changes. Only what the stores have counted besides may differ. -/
structure Alike (store later : Store) : Prop where
  clusters : later.clusters = store.clusters
  namespaces : later.namespaces = store.namespaces
  children : later.children = store.children
  writes : later.writes = store.writes

theorem Alike.refl (store : Store) : Alike store store := ⟨rfl, rfl, rfl, rfl⟩

theorem Alike.trans (first : Alike store later) (second : Alike later other) : Alike store other :=
  ⟨second.clusters.trans first.clusters, second.namespaces.trans first.namespaces,
    second.children.trans first.children, second.writes.trans first.writes⟩

theorem alike_advance (store : Store) : Alike store store.advance := ⟨rfl, rfl, rfl, rfl⟩

/-- Brings the object of one builder into shape. -/
def converge (cluster : Cluster) (builder : Builder) (store : Store) :
    Except Error (Option Child) × Store :=
  match builder.isEnabled cluster, store.children.get? (builder.key cluster) with
  | true, none =>
      match builder.update cluster (builder.skeleton cluster) with
      | .error error => (.error error, store)
      | .ok child => ((store.createChild child).1.map some, (store.createChild child).2)
  | true, some observed =>
      match builder.update cluster observed with
      | .error error => (.error error, store)
      | .ok child =>
          if child = observed then (.ok (some observed), store)
          else ((store.replaceChild child).1.map some, (store.replaceChild child).2)
  | false, none => (.ok none, store)
  | false, some _ => (.ok none, store.deleteChild (builder.key cluster))

/-- Brings the objects of some builders into shape, one after the other. -/
def convergeAll (cluster : Cluster) : List Builder → Store → Except Error (List Child) × Store
  | [], store => (.ok [], store)
  | builder :: rest, store =>
      match store.converge cluster builder with
      | (.error error, later) => (.error error, later)
      | (.ok child, later) =>
          match convergeAll cluster rest later with
          | (.error error, last) => (.error error, last)
          | (.ok children, last) => (.ok (child.toList ++ children), last)

end Store

namespace Program

variable (replies : Replies) (cluster : Cluster)

theorem perform_convergeChild (builder : Builder) (store : Store) :
    perform replies (convergeChild cluster builder) store = store.converge cluster builder := by
  dsimp only [convergeChild]
  rw [perform_bind, perform_askStore]
  unfold Store.converge Builder.key
  dsimp only [Store.answer]
  cases builder.isEnabled cluster with
  | true =>
      cases store.children.get? (builder.skeleton cluster).key with
      | none =>
          dsimp only
          rw [perform_bind, perform_result]
          cases builder.update cluster (builder.skeleton cluster) with
          | error error => rfl
          | ok child =>
              dsimp only
              rw [perform_bind, perform_askStore]
              dsimp only [Store.answer]
              cases store.createChild child with
              | mk created later => cases created <;> rfl
      | some observed =>
          dsimp only
          rw [perform_bind, perform_result]
          cases builder.update cluster observed with
          | error error => rfl
          | ok child =>
              dsimp only
              split
              · rfl
              · rw [perform_bind, perform_askStore]
                dsimp only [Store.answer]
                cases store.replaceChild child with
                | mk replaced later => cases replaced <;> rfl
  | false => cases store.children.get? (builder.skeleton cluster).key <;> rfl

theorem perform_convergeEach (builders : List Builder) (store : Store) :
    perform replies (convergeEach cluster builders) store =
      store.convergeAll cluster builders := by
  induction builders generalizing store with
  | nil => rfl
  | cons builder rest ih =>
      dsimp only [convergeEach]
      rw [perform_bind, perform_convergeChild, Store.convergeAll]
      cases store.converge cluster builder with
      | mk result later =>
          cases result with
          | error error => rfl
          | ok child =>
              dsimp only
              rw [perform_bind, ih]
              cases later.convergeAll cluster rest with
              | mk result last => cases result <;> rfl

end Program

/-- The identity with which a child enters the store. -/
def Child.enteringUid (child : Child) : String :=
  child.metadata.uid.getD
    ("uid-" ++ child.metadata.ns.getD "" ++ "-" ++ child.metadata.name.getD "")

/-- The object under the key of a builder is as it should be: in shape where there should be one,
and absent where there should be none. -/
def Builder.InShape (builder : Builder) (cluster : Cluster) : Option Child → Prop
  | none => builder.isEnabled cluster = false
  | some child => builder.isEnabled cluster ∧ builder.update cluster child = .ok child

/-- What a builder makes of the object under its key where nothing fails: it leaves alone what is as
it should be, and else creates, replaces or deletes the object. -/
inductive Builder.Completes (builder : Builder) (cluster : Cluster) :
    Option Child → Option Child → Prop
  | keeps {stored : Option Child} (inShape : builder.InShape cluster stored) :
      Completes builder cluster stored stored
  | creates {child : Child} (version : Option String) (enabled : builder.isEnabled cluster)
      (updated : builder.update cluster (builder.skeleton cluster) = .ok child) :
      Completes builder cluster none
        (some (child.stamped (some child.enteringUid) version (some 1)))
  | replaces {observed child : Child} (version : Option String)
      (enabled : builder.isEnabled cluster) (own : child.key = builder.key cluster)
      (changed : child ≠ observed) (updated : builder.update cluster observed = .ok child) :
      Completes builder cluster (some observed)
        (some (child.stamped child.metadata.uid version (some observed.metadata.nextGeneration)))
  | deletes (observed : Child) (disabled : builder.isEnabled cluster = false) :
      Completes builder cluster (some observed) none

theorem Builder.Completes.inShape {builder : Builder} {cluster : Cluster}
    {before after : Option Child} (completes : builder.Completes cluster before after) :
    builder.InShape cluster after := by
  cases completes with
  | keeps inShape => exact inShape
  | @creates child version enabled updated =>
      exact ⟨enabled, update_of_stamped (some child.enteringUid) version (some 1) updated⟩
  | @replaces observed child version enabled own changed updated =>
      exact ⟨enabled, update_of_stamped child.metadata.uid version
        (some observed.metadata.nextGeneration) updated⟩
  | deletes observed disabled => exact disabled

namespace Store

variable {store later other : Store} {cluster : Cluster} {builder : Builder} {child : Child}

/-! ### Requests about children -/

theorem createChild_of_absent (absent : store.children.get? child.key = none) :
    ∃ version,
      let created := child.stamped (some child.enteringUid) version (some 1)
      (store.createChild child).1 = .ok created ∧
        (store.createChild child).2.children = store.children.insert child.key created := by
  have free : store.children.contains child.key = false := by
    rw [SortedMap.contains, absent]
    rfl
  unfold createChild
  rw [free]
  exact ⟨_, rfl, rfl⟩

/-- An object that is replaced by one with the same version is the only one of that version. -/
theorem replaceChild_cases {key : ChildKey} {observed : Child} (versioned : store.Versioned)
    (there : store.children.get? key = some observed)
    (bound : child.metadata.resourceVersion = observed.metadata.resourceVersion) :
    (∃ error, store.replaceChild child = (.error error, store.advance)) ∨
      child.key = key ∧ ∃ version,
        let replaced :=
          child.stamped child.metadata.uid version (some observed.metadata.nextGeneration)
        (store.replaceChild child).1 = .ok replaced ∧
          (store.replaceChild child).2.children = store.children.insert key replaced := by
  have same : store.advance.children = store.children := rfl
  cases accepted : writable Child.metadata child.key.text (store.children.get? child.key)
      child.metadata.resourceVersion with
  | error error =>
      left
      refine ⟨error, ?_⟩
      dsimp only [replaceChild]
      rw [same, accepted]
  | ok held =>
      right
      rcases writable_eq_ok accepted with ⟨found, unbound | current⟩
      · rcases versioned.children key observed there with ⟨version, _, carries⟩
        rw [bound, carries] at unbound
        cases unbound
      · have isKey : child.key = key :=
          versioned.childrenApart child.key key held observed found there (current.trans bound)
        rw [isKey, there] at found
        cases found
        refine ⟨isKey, ?_⟩
        dsimp only [replaceChild]
        rw [same, accepted, isKey]
        exact ⟨_, rfl, rfl⟩

/-- Where a child cannot be replaced, it cannot be in a store with the same children either. -/
theorem replaceChild_congr {error : Error} (children : other.children = store.children)
    (refused : store.replaceChild child = (.error error, store.advance)) :
    other.replaceChild child = (.error error, other.advance) := by
  have same : other.advance.children = store.advance.children := children
  dsimp only [replaceChild] at refused ⊢
  rw [same]
  cases accepted : writable Child.metadata child.key.text
      (store.advance.children.get? child.key) child.metadata.resourceVersion with
  | error error =>
      rw [accepted] at refused
      cases refused
      rfl
  | ok held =>
      rw [accepted] at refused
      cases refused

theorem clusters_createChild (store : Store) (child : Child) :
    (store.createChild child).2.clusters = store.clusters := by
  unfold createChild
  split <;> rfl

theorem clusters_replaceChild (store : Store) (child : Child) :
    (store.replaceChild child).2.clusters = store.clusters := by
  dsimp only [replaceChild]
  split <;> rfl

theorem deleteChild_of_present {key : ChildKey}
    (there : store.children.get? key = some child) :
    store.deleteChild key =
      { store with
        deletions := store.deletions + 1
        children := store.children.erase key
        writes := store.writes + 1 } := by
  have contained : store.children.contains key := by
    rw [SortedMap.contains, there]
    rfl
  dsimp only [deleteChild]
  rw [if_pos contained]
  rfl

/-! ### One child -/

theorem progress_converge (cluster : Cluster) (builder : Builder) (store : Store) :
    Progress store (store.converge cluster builder).2 := by
  unfold converge
  split
  · split
    · exact .refl store
    · exact progress_createChild store _
  · split
    · exact .refl store
    · split
      · exact .refl store
      · exact progress_replaceChild store _
  · exact .refl store
  · exact progress_deleteChild store _

/-- What is in shape is left alone. -/
theorem converge_of_inShape
    (inShape : builder.InShape cluster (store.children.get? (builder.key cluster))) :
    store.converge cluster builder = (.ok (store.children.get? (builder.key cluster)), store) := by
  unfold converge
  cases there : store.children.get? (builder.key cluster) with
  | none =>
      rw [there] at inShape
      rw [show builder.isEnabled cluster = false from inShape]
  | some child =>
      rw [there] at inShape
      rcases inShape with ⟨enabled, settled⟩
      rw [enabled]
      dsimp only
      rw [settled]
      exact if_pos rfl

/-- A child has been brought into shape, and all else is as it was. -/
structure Shaped (cluster : Cluster) (builder : Builder) (store : Store) (result : Option Child)
    (later : Store) : Prop where
  clusters : later.clusters = store.clusters
  stored : later.children.get? (builder.key cluster) = result
  completes : builder.Completes cluster (store.children.get? (builder.key cluster)) result
  others : ∀ key, builder.key cluster ≠ key →
    later.children.get? key = store.children.get? key

theorem Shaped.inShape {result : Option Child}
    (shaped : Shaped cluster builder store result later) : builder.InShape cluster result :=
  shaped.completes.inShape

theorem shaped_of_inShape
    (inShape : builder.InShape cluster (store.children.get? (builder.key cluster))) :
    Shaped cluster builder store (store.children.get? (builder.key cluster)) store :=
  ⟨rfl, rfl, .keeps inShape, fun _ _ => rfl⟩

theorem shaped_of_insert {shaped : Child}
    (completes :
      builder.Completes cluster (store.children.get? (builder.key cluster)) (some shaped))
    (clusters : later.clusters = store.clusters)
    (children : later.children = store.children.insert (builder.key cluster) shaped) :
    Shaped cluster builder store (some shaped) later where
  clusters := clusters
  stored := by rw [children, SortedMap.get?_insert_self]
  completes := completes
  others key ne := by rw [children, SortedMap.get?_insert, if_neg ne]

theorem converge_ok {result : Option Child} (versioned : store.Versioned)
    (converged : store.converge cluster builder = (.ok result, later)) :
    Shaped cluster builder store result later := by
  unfold converge at converged
  split at converged
  · rename_i enabled absent
    split at converged
    · cases converged
    · rename_i child updated
      have key : child.key = builder.key cluster := Builder.key_update updated
      rw [← key] at absent
      rcases createChild_of_absent absent with ⟨version, created, children⟩
      rw [created] at converged
      cases converged
      rw [key] at absent children
      refine shaped_of_insert ?_ (clusters_createChild store child) children
      rw [absent]
      exact .creates version enabled updated
  · rename_i observed enabled there
    split at converged
    · cases converged
    · rename_i child updated
      split at converged
      · rename_i settled
        cases converged
        subst settled
        rw [← there]
        apply shaped_of_inShape
        rw [there]
        exact ⟨enabled, updated⟩
      · rename_i changed
        rcases replaceChild_cases versioned there (Builder.resourceVersion_update updated) with
          ⟨error, refused⟩ | ⟨own, version, replaced, children⟩
        · rw [refused] at converged
          cases converged
        · rw [replaced] at converged
          cases converged
          refine shaped_of_insert ?_ (clusters_replaceChild store child) children
          rw [there]
          exact .replaces version enabled own changed updated
  · rename_i disabled absent
    cases converged
    rw [← absent]
    apply shaped_of_inShape
    rw [absent]
    exact disabled
  · rename_i observed disabled there
    cases converged
    rw [deleteChild_of_present there]
    refine ⟨rfl, ?_, ?_, fun key ne => ?_⟩
    · exact (SortedMap.get?_erase _ _ _).trans (if_pos rfl)
    · rw [there]
      exact .deletes observed disabled
    · exact (SortedMap.get?_erase _ _ _).trans (if_neg ne)

/-- What a builder can make of the object, it makes. -/
theorem converge_of_completes {after : Option Child}
    (completes : builder.Completes cluster (store.children.get? (builder.key cluster)) after) :
    ∃ result later, store.converge cluster builder = (.ok result, later) := by
  generalize before : store.children.get? (builder.key cluster) = stored at completes
  cases completes with
  | keeps inShape =>
      rw [← before] at inShape
      exact ⟨_, _, converge_of_inShape inShape⟩
  | @creates child version enabled updated =>
      have absent : store.children.get? child.key = none := by
        rw [Builder.key_update updated]
        exact before
      rcases createChild_of_absent absent with ⟨_, created, _⟩
      simp only [converge, before, enabled, updated, created]
      exact ⟨_, _, rfl⟩
  | @replaces observed child version enabled own changed updated =>
      have accepted : writable Child.metadata child.key.text (store.advance.children.get? child.key)
          child.metadata.resourceVersion = .ok observed := by
        have there : store.advance.children.get? child.key = some observed := by
          rw [own]
          exact before
        rw [there, Builder.resourceVersion_update updated]
        exact writable_of_current Child.metadata _ observed
      simp only [converge, before, enabled, updated, if_neg changed, replaceChild, accepted]
      exact ⟨_, _, rfl⟩
  | deletes observed disabled =>
      simp only [converge, before, disabled]
      exact ⟨_, _, rfl⟩

/-- What cannot be brought into shape is left as it is, and the next time with the same error. -/
theorem converge_error {error : Error} (versioned : store.Versioned)
    (failed : store.converge cluster builder = (.error error, later)) :
    Alike store later ∧ ∀ other, other.children = store.children →
      ∃ last, other.converge cluster builder = (.error error, last) ∧ Alike other last := by
  unfold converge at failed
  split at failed
  · rename_i enabled absent
    split at failed
    · rename_i updated
      cases failed
      refine ⟨.refl store, fun other children => ⟨other, ?_, .refl other⟩⟩
      unfold converge
      rw [children, enabled, absent]
      dsimp only
      rw [updated]
    · rename_i child updated
      have key : child.key = builder.key cluster := Builder.key_update updated
      rw [← key] at absent
      rcases createChild_of_absent absent with ⟨version, created, children⟩
      rw [created] at failed
      cases failed
  · rename_i observed enabled there
    split at failed
    · rename_i updated
      cases failed
      refine ⟨.refl store, fun other children => ⟨other, ?_, .refl other⟩⟩
      unfold converge
      rw [children, enabled, there]
      dsimp only
      rw [updated]
    · rename_i child updated
      split at failed
      · cases failed
      · rename_i unsettled
        rcases replaceChild_cases versioned there (Builder.resourceVersion_update updated) with
          ⟨error, refused⟩ | ⟨_, version, replaced, children⟩
        · rw [refused] at failed
          cases failed
          refine ⟨alike_advance store, fun other children => ?_⟩
          refine ⟨other.advance, ?_, alike_advance other⟩
          unfold converge
          rw [children, enabled, there]
          dsimp only
          rw [updated]
          dsimp only
          rw [if_neg unsettled, replaceChild_congr children refused]
          rfl
        · rw [replaced] at failed
          cases failed
  · cases failed
  · cases failed

/-! ### All children -/

/-- The children of some builders have been converged, and it is over: a success leaves all of them
in shape, and the next time comes to the same and changes nothing. -/
structure Converged (cluster : Cluster) (builders : List Builder) (store : Store)
    (result : Except Error (List Child)) (later : Store) : Prop where
  clusters : later.clusters = store.clusters
  others : ∀ key, (∀ builder ∈ builders, builder.key cluster ≠ key) →
    later.children.get? key = store.children.get? key
  inShape : ∀ children, result = .ok children → ∀ builder ∈ builders,
    builder.InShape cluster (later.children.get? (builder.key cluster))
  again : ∀ other, other.children = later.children →
    ∃ last, other.convergeAll cluster builders = (result, last) ∧ Alike other last

theorem converged_convergeAll {builders : List Builder} {result : Except Error (List Child)}
    (versioned : store.Versioned)
    (distinct : builders.Pairwise fun left right => left.key cluster ≠ right.key cluster)
    (converges : store.convergeAll cluster builders = (result, later)) :
    Converged cluster builders store result later := by
  induction builders generalizing store later result with
  | nil =>
      cases converges
      exact ⟨rfl, fun _ _ => rfl, fun _ _ _ => nofun, fun other _ => ⟨other, rfl, .refl other⟩⟩
  | cons builder rest ih =>
      rcases List.pairwise_cons.mp distinct with ⟨apart, distinct⟩
      rw [convergeAll] at converges
      cases first : store.converge cluster builder with
      | mk outcome middle =>
          rw [first] at converges
          cases outcome with
          | error error =>
              cases converges
              rcases converge_error versioned first with ⟨alike, again⟩
              refine ⟨alike.clusters, fun key _ => ?_, fun _ => nofun, fun other same => ?_⟩
              · rw [alike.children]
              · rcases again other (same.trans alike.children) with ⟨last, fails, still⟩
                exact ⟨last, by rw [convergeAll, fails], still⟩
          | ok child =>
              have shaped := converge_ok versioned first
              have progress : Progress store middle := by
                have progress := progress_converge cluster builder store
                rw [first] at progress
                exact progress
              dsimp only at converges
              cases remaining : middle.convergeAll cluster rest with
              | mk outcome final =>
                  rw [remaining] at converges
                  have converged := ih (progress.versioned versioned) distinct remaining
                  -- nothing that comes later touches the child
                  have stays : final.children.get? (builder.key cluster) = child :=
                    (converged.others _ fun other there => (apart other there).symm).trans
                      shaped.stored
                  have frame (key : ChildKey)
                      (outside : ∀ one ∈ builder :: rest, one.key cluster ≠ key) :
                      final.children.get? key = store.children.get? key := by
                    rw [converged.others key fun one there =>
                      outside one (List.mem_cons_of_mem _ there)]
                    exact shaped.others key (outside builder (List.mem_cons_self ..))
                  have same : later = final := by
                    cases outcome <;> cases converges <;> rfl
                  subst same
                  refine ⟨converged.clusters.trans shaped.clusters, frame, ?_, ?_⟩
                  · intro children success one there
                    rcases List.mem_cons.mp there with rfl | there
                    · rw [stays]
                      exact shaped.inShape
                    · cases outcome with
                      | error error =>
                          cases converges
                          cases success
                      | ok others => exact converged.inShape others rfl one there
                  · intro other children
                    have there : other.children.get? (builder.key cluster) = child := by
                      rw [children, stays]
                    have settled := converge_of_inShape (there ▸ shaped.inShape)
                    rcases converged.again other children with ⟨last, comes, still⟩
                    refine ⟨last, ?_, still⟩
                    rw [convergeAll, settled, there]
                    dsimp only
                    rw [comes]
                    cases outcome <;> cases converges <;> rfl

end Store

end ClusterOperator
