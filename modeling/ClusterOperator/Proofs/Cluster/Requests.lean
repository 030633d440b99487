import ClusterOperator.Pass.Cluster
import ClusterOperator.Proofs.Program.History

/-!
# What cluster passes ask

A pass over a cluster reads its object, and all that it asks afterwards follows from what it has
read: a child is written only after it was looked at (`Cluster.Tends`), and the object itself only
in the version that was read (`Cluster.Asks`). A pass over a cluster asks nothing of a server, and
it has nothing to do with namespaces.
-/

namespace ClusterOperator

namespace History

/-- The cluster was read as this object. -/
def ReadCluster (history : History) (key : ObjectKey) (held : Cluster) : Prop :=
  .answered (.store (.getCluster key)) (.ok (some held)) ∈ history

/-- The child was read as this object, or as absent. -/
def ReadChild (history : History) (key : ChildKey) (found : Option Child) : Prop :=
  .answered (.store (.getChild key)) (.ok found) ∈ history

end History

namespace Cluster

/-- The request is for the store, about a cluster or a child. -/
def Concerns : Request → Prop
  | .store (.getNamespace _) => False
  | .store .listNamespaces => False
  | .store (.patchNamespace _ _) => False
  | .store _ => True
  | _ => False

/-- What is asked to bring the children of a cluster into shape, and after what. -/
inductive Tends (cluster : Cluster) : History → Request → Prop
  | look {history : History} {builder : Builder} (known : builder ∈ Builder.all) :
      Tends cluster history (.store (.getChild (builder.key cluster)))
  | create {history : History} {builder : Builder} {child : Child}
      (enabled : builder.isEnabled cluster)
      (absent : history.ReadChild (builder.key cluster) none)
      (updated : builder.update cluster (builder.skeleton cluster) = .ok child) :
      Tends cluster history (.store (.createChild child))
  | replace {history : History} {builder : Builder} {observed child : Child}
      (enabled : builder.isEnabled cluster)
      (there : history.ReadChild (builder.key cluster) (some observed))
      (updated : builder.update cluster observed = .ok child) (changed : child ≠ observed) :
      Tends cluster history (.store (.replaceChild child))
  | delete {history : History} {builder : Builder} {observed : Child}
      (known : builder ∈ Builder.all) (disabled : builder.isEnabled cluster = false)
      (there : history.ReadChild (builder.key cluster) (some observed)) :
      Tends cluster history (.store (.deleteChild (builder.key cluster)))

/-- What a pass over a cluster asks, and after what. -/
inductive Asks (key : ObjectKey) : History → Request → Prop
  | object : Asks key [] (.store (.getCluster key))
  | fill {history : History} {held : Cluster} (read : history.ReadCluster key held)
      (opened : held.spec.isNormal = false) :
      Asks key history (.store (.replaceCluster { held with spec := held.spec.withDefaults }))
  | tend {history : History} {held : Cluster} {request : Request}
      (read : history.ReadCluster key held) (normal : held.spec.isNormal)
      (tends : held.Tends history request) : Asks key history request
  | write {history : History} {held changed : Cluster} (now : Instant)
      (result : Except Error Outcome) (read : history.ReadCluster key held)
      (same : changed.metadata = held.metadata) :
      Asks key history (.store (.patchCluster key (.between held (changed.record now result))))

variable {cluster : Cluster} {key : ObjectKey} {history : History} {request : Request}

theorem Tends.concerns (tends : cluster.Tends history request) : Concerns request := by
  cases tends <;> trivial

theorem Asks.concerns (asks : Asks key history request) : Concerns request := by
  cases asks with
  | tend read normal tends => exact tends.concerns
  | _ => trivial

/-- A pass reads its object before everything else. -/
theorem Asks.past_of_read {other : ObjectKey}
    (asks : Asks key history (.store (.getCluster other))) : other = key ∧ history = [] := by
  cases asks with
  | object => exact ⟨rfl, rfl⟩
  | tend read normal tends => cases tends

end Cluster

namespace Program

open Cluster (Concerns Tends Asks)

theorem keeps_convergeChild (cluster : Cluster) {builder : Builder}
    (known : builder ∈ Builder.all) (history : History) :
    Keeps cluster.Tends (fun _ _ => True) history (convergeChild cluster builder).run := by
  dsimp only [convergeChild]
  refine keeps_run_bind.mpr (And.intro (.look known) fun answer => ?_)
  cases answer with
  | error error => trivial
  | ok current =>
      have read (tail : History) :
          History.ReadChild
            (.answered (.store (.getChild (builder.key cluster))) (.ok current) :: tail)
            (builder.key cluster) current :=
        List.mem_cons_self ..
      refine keeps_pure.mpr ?_
      dsimp only
      split
      · refine keeps_run_bind.mpr (keeps_run_result.mpr ?_)
        cases updated : builder.update cluster (builder.skeleton cluster) with
        | error error => trivial
        | ok child =>
            refine keeps_run_bind.mpr (And.intro (.create ‹_› (read _) updated) fun answer => ?_)
            cases answer <;> trivial
      · rename_i observed enabled
        refine keeps_run_bind.mpr (keeps_run_result.mpr ?_)
        cases updated : builder.update cluster observed with
        | error error => trivial
        | ok child =>
            dsimp only
            split
            · trivial
            · refine keeps_run_bind.mpr (And.intro ?_ fun answer => ?_)
              · exact .replace enabled (read _) updated ‹_›
              · cases answer <;> trivial
      · trivial
      · refine keeps_run_bind.mpr (And.intro (.delete known ‹_› (read _)) fun answer => ?_)
        cases answer <;> trivial

theorem keeps_convergeEach (cluster : Cluster) {builders : List Builder}
    (known : ∀ builder ∈ builders, builder ∈ Builder.all) (history : History) :
    Keeps cluster.Tends (fun _ _ => True) history (convergeEach cluster builders).run := by
  induction builders generalizing history with
  | nil => trivial
  | cons builder rest ih =>
      have first := keeps_convergeChild cluster (known builder (List.mem_cons_self ..))
      have others := ih fun other there => known other (List.mem_cons_of_mem _ there)
      dsimp only [convergeEach]
      refine keeps_run_bind.mpr ((first history).mono (fun _ _ tends => tends) ?_)
      intro history result _
      cases result with
      | error error => trivial
      | ok child =>
          refine keeps_run_bind.mpr ((others history).mono (fun _ _ tends => tends) ?_)
          intro history result _
          cases result <;> trivial

/-- What the part of a pass that is under the deadline asks; it leaves the metadata as it is. -/
theorem keeps_clusterBody (settings : Settings) (now : Instant) (key : ObjectKey) (held : Cluster) :
    Keeps (Asks key) (fun _ left => left.1.metadata = held.metadata)
      [.answered (.store (.getCluster key)) (.ok (some held))]
      (clusterBody settings now key held) := by
  have start : History.ReadCluster [.answered (.store (.getCluster key)) (.ok (some held))] key
      held := List.mem_cons_self ..
  dsimp only [clusterBody]
  split
  · rename_i normal
    split
    · rfl
    · have tends := keeps_convergeEach held (fun _ known => known)
        [.answered (.store (.getCluster key)) (.ok (some held))]
      have asks := tends.since_start.mono
        (fun history request tends =>
          Asks.tend (tends.1.subset (List.mem_cons_self ..)) normal tends.2)
        fun _ _ _ => trivial
      refine keeps_bind.mpr ((asks.limit fun _ _ _ _ => trivial).mono (fun _ _ asks => asks) ?_)
      intro history result _
      cases result <;> rfl
  · rename_i opened
    refine keeps_bind.mpr (And.intro (.fill start (eq_false_of_ne_true opened)) (And.intro rfl ?_))
    intro answer
    cases answer <;> rfl

/-- What a pass asks. -/
theorem keeps_reconcileCluster (settings : Settings) (now : Instant) (key : ObjectKey) :
    Keeps (Asks key) (fun _ _ => True) [] (reconcileCluster settings now key).run := by
  have concluded (history : History) (outcome : Except Error Outcome) :
      Keeps (Asks key) (fun _ _ => True) history
        (conclude (Cluster.failureKey key) outcome).run := by
    cases outcome with
    | ok outcome => trivial
    | error error =>
        dsimp only [conclude]
        split <;> trivial
  dsimp only [reconcileCluster]
  refine keeps_run_bind.mpr (And.intro .object fun answer => ?_)
  cases answer with
  | error error => trivial
  | ok found =>
      cases found with
      | none => trivial
      | some held =>
          refine keeps_pure.mpr ?_
          dsimp only
          split
          · trivial
          · have body := keeps_clusterBody settings now key held
            refine keeps_run_bind.mpr (keeps_run_lift.mpr (body.since_start.mono ?_ ?_))
            · exact fun _ _ asks => asks.2
            rintro history ⟨changed, result⟩ ⟨later, same⟩
            have read : history.ReadCluster key held := later.subset (List.mem_cons_self ..)
            dsimp only
            split
            · exact keeps_run_bind.mpr (concluded _ _)
            · refine keeps_run_bind.mpr (keeps_run_attempt.mpr ?_)
              exact And.intro (.write now result read same) fun answer => concluded _ _

end Program

end ClusterOperator
