import ClusterOperator.SortedMap.Lemmas
import ClusterOperator.Store.Answer
import ClusterOperator.Store.Edit

/-!
# Changes of the store

`Store.Change` lists what others can do to the store at any moment: users and other controllers who
create, edit and delete objects, and other clients who send the requests that passes send too. An
edit may change everything about an object but the version that the store gives it.

Whatever is done to the store, a table of it is changed in one of few ways (`Rewritten`), and
`Store.Progress` collects this for the whole store. Everything about versions follows from it.
-/

namespace ClusterOperator

/-- What one operation does to a table while the counter of versions goes from `low` to `high`: a
new entry carries a version that was not handed out before. -/
inductive Rewritten {κ α : Type} [Ord κ] [DecidableEq κ] [Std.TransOrd κ] [Std.LawfulEqOrd κ]
    (metadata : α → Metadata) (low high : Nat) (table : SortedMap κ α) : SortedMap κ α → Prop
  | kept : Rewritten metadata low high table table
  | erased (key : κ) : Rewritten metadata low high table (table.erase key)
  | stored (key : κ) (value : α) (later : low < high)
      (stamped : (metadata value).resourceVersion = some (toString high)) :
      Rewritten metadata low high table (table.insert key value)

/-- What one operation does to the store. Children may also be restated, all of them at once and
without new versions, by what is observed about them. -/
structure Store.Progress (store later : Store) : Prop where
  version_le : store.version ≤ later.version
  clusters :
    Rewritten Resource.metadata store.version later.version store.clusters later.clusters
  namespaces :
    Rewritten Resource.metadata store.version later.version store.namespaces later.namespaces
  children :
    Rewritten Child.metadata store.version later.version store.children later.children ∨
      ∃ restate : ChildKey → Child → Child,
        (∀ key child, (restate key child).metadata = child.metadata) ∧
          later.children = store.children.mapValues restate

namespace Store

/-- A change that others make. -/
inductive Change : Store → Store → Prop
  | insertCluster (store : Store) (cluster : Cluster) : Change store (store.insertCluster cluster).2
  | insertNamespace (store : Store) (ns : Namespace) : Change store (store.insertNamespace ns).2
  | removeCluster (store : Store) (key : ObjectKey) : Change store (store.removeCluster key)
  | setReady (store : Store) (key : ObjectKey) (ready : Bool) (now : Instant) :
      Change store (store.setReady key ready now)
  | rollOut (store : Store) (ns : String) : Change store (store.rollOut ns)
  | deleteNamespace (store : Store) (key : ObjectKey) (now : Instant) :
      Change store (store.deleteNamespace key now)
  | editNamespace {store : Store} {key : ObjectKey} {held : Namespace} (edited : Namespace)
      (there : store.namespaces.get? key = some held) : Change store (store.putNamespace key edited)
  | editChild {store : Store} {key : ChildKey} {held : Child} (edited : Child)
      (there : store.children.get? key = some held) : Change store (store.putChild key edited)
  /-- An edit of an object that is not there. -/
  | editNothing (store : Store) : Change store store.advance
  | request (store : Store) (request : StoreRequest) : Change store (store.answer request).2

/-! ### What each operation does -/

theorem Progress.refl (store : Store) : Progress store store :=
  ⟨Nat.le_refl _, .kept, .kept, .inl .kept⟩

theorem Progress.advance (store : Store) : Progress store store.advance :=
  ⟨Nat.le_succ _, .kept, .kept, .inl .kept⟩

theorem writable_eq_ok {α : Type} {metadata : α → Metadata} {object : String} {stored : Option α}
    {version : Option String} {held : α}
    (accepted : writable metadata object stored version = .ok held) :
    stored = some held ∧ (version = none ∨ (metadata held).resourceVersion = version) := by
  unfold writable at accepted
  split at accepted
  · cases accepted
  · split at accepted
    · cases accepted
      exact ⟨rfl, .inl rfl⟩
    · split at accepted
      · cases accepted
        exact ⟨rfl, .inr ‹_›⟩
      · cases accepted

/-- Whoever has read the stored version may write. -/
theorem writable_of_current {α : Type} (metadata : α → Metadata) (object : String) (held : α) :
    writable metadata object (some held) (metadata held).resourceVersion = .ok held := by
  dsimp only [writable]
  split
  · rfl
  · rw [if_pos ‹_›]

theorem progress_replaceCluster (store : Store) (cluster : Cluster) :
    Progress store (store.replaceCluster cluster).2 := by
  unfold replaceCluster
  dsimp only
  split
  · exact .advance store
  · exact ⟨Nat.le_succ _, .stored _ _ (Nat.lt_succ_self _) rfl, .kept, .inl .kept⟩

theorem progress_patchCluster (store : Store) (key : ObjectKey)
    (patch : ObjectPatch ClusterStatus) : Progress store (store.patchCluster key patch).2 := by
  unfold patchCluster
  dsimp only
  split
  · exact .advance store
  · exact ⟨Nat.le_succ _, .stored _ _ (Nat.lt_succ_self _) rfl, .kept, .inl .kept⟩

theorem progress_patchNamespace (store : Store) (key : ObjectKey)
    (patch : ObjectPatch NamespaceStatus) : Progress store (store.patchNamespace key patch).2 := by
  unfold patchNamespace
  dsimp only
  split
  · exact .advance store
  · refine ⟨Nat.le_succ _, .kept, ?_, .inl .kept⟩
    dsimp only [countWrite]
    split
    · exact .erased _
    · exact .stored _ _ (Nat.lt_succ_self _) rfl

theorem metadata_withMetadata (metadata : Metadata) (child : Child) :
    (child.withMetadata metadata).metadata = metadata := by
  cases child <;> rfl

theorem progress_createChild (store : Store) (child : Child) :
    Progress store (store.createChild child).2 := by
  unfold createChild
  split
  · exact .refl store
  · refine ⟨Nat.le_succ _, .kept, .kept, .inl (.stored _ _ (Nat.lt_succ_self _) ?_)⟩
    rw [metadata_withMetadata]
    rfl

theorem progress_replaceChild (store : Store) (child : Child) :
    Progress store (store.replaceChild child).2 := by
  unfold replaceChild
  dsimp only
  split
  · exact .advance store
  · refine ⟨Nat.le_succ _, .kept, .kept, .inl (.stored _ _ (Nat.lt_succ_self _) ?_)⟩
    rw [Child.replacing, metadata_withMetadata]
    rfl

theorem progress_deleteChild (store : Store) (key : ChildKey) :
    Progress store (store.deleteChild key) := by
  unfold deleteChild
  dsimp only
  split
  · exact ⟨Nat.le_refl _, .kept, .kept, .inl (.erased _)⟩
  · exact ⟨Nat.le_refl _, .kept, .kept, .inl .kept⟩

/-- What a request does to the store. -/
theorem progress_answer (store : Store) (request : StoreRequest) :
    Progress store (store.answer request).2 := by
  cases request with
  | getCluster key => exact .refl store
  | replaceCluster cluster => exact progress_replaceCluster store cluster
  | patchCluster key patch => exact progress_patchCluster store key patch
  | getNamespace key => exact .refl store
  | listNamespaces => exact .refl store
  | patchNamespace key patch => exact progress_patchNamespace store key patch
  | getChild key => exact .refl store
  | createChild child => exact progress_createChild store child
  | replaceChild child => exact progress_replaceChild store child
  | deleteChild key => exact progress_deleteChild store key

theorem progress_setReady (store : Store) (key : ObjectKey) (ready : Bool) (now : Instant) :
    Progress store (store.setReady key ready now) := by
  refine ⟨Nat.le_succ _, ?_, .kept, .inl .kept⟩
  dsimp only [setReady]
  unfold SortedMap.modify
  split
  · exact .kept
  · exact .stored _ _ (Nat.lt_succ_self _) rfl

theorem progress_rollOut (store : Store) (ns : String) : Progress store (store.rollOut ns) := by
  refine ⟨Nat.le_refl _, .kept, .kept, .inr ?_⟩
  dsimp only [rollOut]
  refine ⟨_, ?_, rfl⟩
  intro key child
  cases child with
  | service object => rfl
  | deployment object =>
      dsimp only
      split <;> rfl

theorem progress_deleteNamespace (store : Store) (key : ObjectKey) (now : Instant) :
    Progress store (store.deleteNamespace key now) := by
  unfold deleteNamespace
  dsimp only
  split
  · exact .advance store
  · split
    · exact ⟨Nat.le_succ _, .kept, .erased _, .inl .kept⟩
    · exact ⟨Nat.le_succ _, .kept, .stored _ _ (Nat.lt_succ_self _) rfl, .inl .kept⟩

theorem progress_putNamespace (store : Store) (key : ObjectKey) (ns : Namespace) :
    Progress store (store.putNamespace key ns) :=
  ⟨Nat.le_succ _, .kept, .stored _ _ (Nat.lt_succ_self _) rfl, .inl .kept⟩

theorem progress_putChild (store : Store) (key : ChildKey) (child : Child) :
    Progress store (store.putChild key child) := by
  refine ⟨Nat.le_succ _, .kept, .kept, .inl (.stored _ _ (Nat.lt_succ_self _) ?_)⟩
  rw [metadata_withMetadata]
  rfl

/-- What others do to the store. -/
theorem Change.progress {store later : Store} (change : Change store later) :
    Progress store later := by
  cases change with
  | insertCluster cluster =>
      exact ⟨Nat.le_succ _, .stored _ _ (Nat.lt_succ_self _) rfl, .kept, .inl .kept⟩
  | insertNamespace ns =>
      exact ⟨Nat.le_succ _, .kept, .stored _ _ (Nat.lt_succ_self _) rfl, .inl .kept⟩
  | removeCluster key => exact ⟨Nat.le_refl _, .erased _, .kept, .inl .kept⟩
  | setReady key ready now => exact progress_setReady store key ready now
  | rollOut ns => exact progress_rollOut store ns
  | deleteNamespace key now => exact progress_deleteNamespace store key now
  | editNamespace edited there => exact progress_putNamespace store _ edited
  | editChild edited there => exact progress_putChild store _ edited
  | editNothing => exact .advance store
  | request request => exact progress_answer store request

end Store

end ClusterOperator
