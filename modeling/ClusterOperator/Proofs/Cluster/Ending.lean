import ClusterOperator.Proofs.Cluster.Convergence
import ClusterOperator.Proofs.Program.Solitary

/-!
# How cluster passes end

What a pass over a cluster comes to is an outcome, and what came of writing it down. A pass whose
outcome is a success and is written down has had all its requests granted: so it has found a
complete spec, and has converged the children.
-/

namespace ClusterOperator

theorem Store.convergeAll_of_checked {store : Store} {cluster : Cluster} {children : List Child}
    (checks : (store.checked cluster).1 = .ok children) :
    store.convergeAll cluster Builder.all = (.ok children, (store.checked cluster).2) := by
  revert checks
  unfold checked
  split
  · exact nofun
  · exact fun checks => Prod.ext checks rfl

namespace Program

/-- What a pass over a cluster comes to before it is decided when to look again: the outcome, and
what came of writing it down. There is nothing where the cluster is not there or is to be left
alone. -/
def clusterEnding (settings : Settings) (now : Instant) (key : ObjectKey) :
    Fallible (Option (Except Error Outcome × Except Error Unit)) := do
  match ← askStore (.getCluster key) with
  | none => pure none
  | some cluster =>
      if cluster.metadata.isDeleting then pure none
      else do
        let (changed, result) ← clusterBody settings now key cluster
        let patch := ObjectPatch.between cluster (changed.record now result)
        let written ←
          if patch.isEmpty then pure (.ok ())
          else attempt (askStore (.patchCluster key patch))
        pure (some (result, written))

/-- A pass decides by that when to look again, and asks nothing more. -/
theorem reconcileCluster_eq (settings : Settings) (now : Instant) (key : ObjectKey) :
    reconcileCluster settings now key = clusterEnding settings now key >>= fun
      | none => leave (Cluster.failureKey key)
      | some (result, written) => conclude (Cluster.failureKey key) (settle result written) := by
  unfold reconcileCluster clusterEnding
  rw [LawfulMonad.bind_assoc]
  refine bind_congr fun found => ?_
  cases found with
  | none => rw [LawfulMonad.pure_bind]
  | some cluster =>
      dsimp only
      split
      · rw [LawfulMonad.pure_bind]
      · rw [LawfulMonad.bind_assoc]
        refine bind_congr fun left => ?_
        split
        · simp only [LawfulMonad.pure_bind]
        · simp only [LawfulMonad.bind_assoc, LawfulMonad.pure_bind]

/-! ### Passes that succeed -/

theorem careful_convergeChild (cluster : Cluster) (builder : Builder) :
    Careful (convergeChild cluster builder) := by
  refine (careful_askStore _).bind fun current => ?_
  split
  · refine careful_result.bind fun child => ?_
    exact (careful_askStore _).bind fun created => careful_pure
  · refine careful_result.bind fun child => ?_
    split
    · exact careful_pure
    · exact (careful_askStore _).bind fun replaced => careful_pure
  · exact careful_pure
  · exact (careful_askStore _).bind fun _ => careful_pure

theorem careful_convergeEach (cluster : Cluster) (builders : List Builder) :
    Careful (convergeEach cluster builders) := by
  induction builders with
  | nil => exact careful_pure
  | cons builder rest ih =>
      refine (careful_convergeChild cluster builder).bind fun child => ?_
      exact ih.bind fun children => careful_pure

/-- A pass succeeds only on a complete spec, and only if all its requests were granted. -/
theorem keeps_clusterBody_of_success (settings : Settings) (now : Instant) (key : ObjectKey)
    (cluster : Cluster) {history : History} (granted : history.Granted) :
    Keeps (fun _ _ => True)
      (fun later left => left.2 = .ok .success → later.Granted ∧ cluster.spec.isNormal) history
      (clusterBody settings now key cluster) := by
  dsimp only [clusterBody]
  split
  · rename_i normal
    split
    · exact nofun
    · let late := Error.timeout key.text settings.passTimeout
      have careful := (careful_convergeEach cluster Builder.all).limit late history granted
      refine keeps_bind.mpr (careful.mono (fun _ _ any => any) ?_)
      intro later result granted
      cases result with
      | ok children => exact fun _ => ⟨granted children rfl, normal⟩
      | error error => exact nofun
  · refine keeps_bind.mpr ⟨trivial, nofun, fun answer => ?_⟩
    cases answer <;> exact nofun

theorem keeps_clusterEnding_of_success (settings : Settings) (now : Instant) (key : ObjectKey) :
    Keeps (fun _ _ => True)
      (fun later result => result = .ok (some (.ok .success, .ok ())) → later.Granted) []
      (clusterEnding settings now key).run := by
  dsimp only [clusterEnding]
  refine keeps_run_bind.mpr ⟨trivial, fun answer => ?_⟩
  cases answer with
  | error error => exact nofun
  | ok found =>
      have granted := History.granted_nil.answered (.getCluster key) found
      cases found with
      | none => exact nofun
      | some cluster =>
          refine keeps_pure.mpr ?_
          dsimp only
          split
          · exact nofun
          · have body := keeps_clusterBody_of_success settings now key cluster granted
            refine keeps_run_bind.mpr (keeps_run_lift.mpr (body.mono (fun _ _ any => any) ?_))
            rintro later ⟨changed, result⟩ success
            dsimp only
            split
            · rintro ⟨⟩
              exact (success rfl).1
            · refine keeps_run_bind.mpr (keeps_run_attempt.mpr ?_)
              refine And.intro trivial fun answer => ?_
              rintro ⟨⟩
              exact (success rfl).1.answered (.patchCluster key _) ()

variable {replies : Replies} {settings : Settings} {now : Instant} {key : ObjectKey}
  {store last : Store}

/-- A pass that succeeds has read a cluster with a complete spec, which is not being deleted, has
converged the children, and leaves what the whole pass leaves. -/
theorem exists_converged_of_ending
    (performed : perform replies (clusterEnding settings now key) store =
      (.ok (some (.ok .success, .ok ())), last)) :
    ∃ cluster children, store.clusters.get? key = some cluster ∧
      cluster.metadata.isDeleting = false ∧ cluster.spec.isNormal ∧
      (store.checked cluster).1 = .ok children ∧
      (perform replies (reconcileCluster settings now key) store).2 = last := by
  have whole : (perform replies (reconcileCluster settings now key) store).2 = last := by
    rw [reconcileCluster_eq, perform_bind, performed]
    rfl
  unfold clusterEnding at performed
  rw [perform_bind, perform_askStore] at performed
  dsimp only [Store.answer] at performed
  cases there : store.clusters.get? key with
  | none =>
      rw [there] at performed
      cases performed
  | some cluster =>
      rw [there] at performed
      dsimp only at performed
      cases alive : cluster.metadata.isDeleting with
      | true =>
          rw [alive, if_pos rfl] at performed
          cases performed
      | false =>
          rw [alive, if_neg Bool.false_ne_true, perform_bind, perform_lift] at performed
          have body := keeps_clusterBody_of_success settings now key cluster History.granted_nil
          rcases body.exists_end (Store.alone replies) store with ⟨_, _, succeeds⟩
          have success :
              ((clusterBody settings now key cluster).run (Store.alone replies) store).1.2 =
                .ok .success := by
            generalize (clusterBody settings now key cluster).run (Store.alone replies) store = left
              at performed
            rcases left with ⟨⟨changed, result⟩, middle⟩
            dsimp only at performed ⊢
            split at performed
            · cases performed
              rfl
            · rw [perform_bind, perform_attempt] at performed
              simp only [perform_pure, Prod.mk.injEq, Except.ok.injEq, Option.some.injEq]
                at performed
              exact performed.1.1
          have normal := (succeeds success).2
          rw [run_clusterBody_of_normal normal] at success
          cases checks : (store.checked cluster).1 with
          | error error =>
              rw [checks] at success
              cases success
          | ok children => exact ⟨cluster, children, rfl, alive, normal, checks, whole⟩

end Program

end ClusterOperator
