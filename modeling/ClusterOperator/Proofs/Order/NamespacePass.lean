import ClusterOperator.Proofs.Namespace.Requests
import ClusterOperator.Proofs.Order.Closing
import ClusterOperator.Proofs.Program.History
import ClusterOperator.Proofs.Program.Notes
import ClusterOperator.Proofs.Store.Patch

/-!
# The footprint of namespace passes

A pass over a namespace reads its cluster, and writes nothing but the namespace itself and what the
server of the cluster keeps of it.
-/

namespace ClusterOperator

open Program

variable {ρ α : Type} {backend : Backend ρ} {realm : Realm ρ} {cluster : Cluster} {name : String}

namespace Realm

theorem putRemote_self (realm : Realm ρ) (cluster : ObjectKey) (name : String) :
    realm.putRemote cluster name (realm.remote cluster name) = realm := by
  have same : (fun other target =>
      if cluster = other ∧ name = target then realm.remote cluster name
      else realm.remote other target) = realm.remote := by
    funext other target
    split
    · rename_i here
      rw [here.1, here.2]
    · rfl
  unfold putRemote
  rw [same]

theorem putRemote_putRemote (realm : Realm ρ) (cluster : ObjectKey) (name : String)
    (first second : ρ) :
    (realm.putRemote cluster name first).putRemote cluster name second =
      realm.putRemote cluster name second := by
  unfold putRemote
  dsimp only
  congr 1
  funext other target
  split <;> rfl

theorem remote_putRemote_self (realm : Realm ρ) (cluster : ObjectKey) (name : String) (state : ρ) :
    (realm.putRemote cluster name state).remote cluster name = state :=
  if_pos ⟨rfl, rfl⟩

end Realm

/-! ### Talks with one server about one namespace -/

/-- The request is for the server of a cluster, and about one namespace there. -/
def Request.IsOn (cluster : Cluster) (name : String) : Request → Prop
  | .store _ => False
  | .connect _ => True
  | .server other request => other = cluster ∧ request.target = name
  | .close _ => True

theorem Request.isOn_server {request : ServerRequest} (target : request.target = name) :
    Request.IsOn cluster name (.server cluster request) :=
  ⟨rfl, target⟩

namespace Backend

/-- Answers a request to a server with a single namespace. -/
def reply (backend : Backend ρ) : (request : Request) → ρ → Except Error request.Answer × ρ
  | .store _, state => (.error (.conflict "" ""), state)
  | .connect cluster, state => (backend.connect cluster, state)
  | .server cluster request, state => backend.answer cluster request state
  | .close _, state => (.ok (), state)

/-- A server with a single namespace. -/
def single (backend : Backend ρ) : Environment ρ where
  note _ state := state
  call := backend.reply
  timed request state := (some (backend.reply request state).1, (backend.reply request state).2)

/-- A request about one namespace is answered by what is kept of that, and changes nothing else. -/
theorem call_of_isOn {request : Request} (isOn : request.IsOn cluster name) (realm : Realm ρ) :
    backend.call request realm =
      ((backend.reply request (realm.remote cluster.key name)).1,
        realm.putRemote cluster.key name
          (backend.reply request (realm.remote cluster.key name)).2) := by
  cases request with
  | store request => exact isOn.elim
  | connect other => exact Prod.ext rfl (realm.putRemote_self _ _).symm
  | close other => exact Prod.ext rfl (realm.putRemote_self _ _).symm
  | server other request =>
      rcases isOn with ⟨rfl, rfl⟩
      rfl

end Backend

/-- What comes of a talk about one namespace depends on what is kept of that only, and nothing else
changes. -/
theorem Program.run_of_isOn {program : Program α} {history : History}
    (only : Keeps (fun _ => Request.IsOn cluster name) (fun _ _ => True) history program)
    (silent : Notes (fun _ => False) program) (realm : Realm ρ) :
    let left := program.run backend.single (realm.remote cluster.key name)
    program.run backend.environment realm = (left.1, realm.putRemote cluster.key name left.2) := by
  induction program generalizing history realm with
  | done value => exact Prod.ext rfl (realm.putRemote_self _ _).symm
  | note entry rest ih => exact silent.1.elim
  | call request next ih =>
      change (next (backend.call request realm).1).run backend.environment
        (backend.call request realm).2 = _
      rw [Backend.call_of_isOn only.1]
      refine (ih _ (only.2 _) (silent _) _).trans ?_
      rw [Realm.remote_putRemote_self, Realm.putRemote_putRemote]
      rfl
  | timed request cut next cutIh nextIh =>
      change (next (backend.call request realm).1).run backend.environment
        (backend.call request realm).2 = _
      rw [Backend.call_of_isOn only.1]
      refine (nextIh _ (only.2.2 _) (silent.2 _) _).trans ?_
      rw [Realm.remote_putRemote_self, Realm.putRemote_putRemote]
      rfl

/-- A talk that starts in the same state of its namespace comes to the same. -/
theorem Program.exists_run_of_isOn {program : Program α}
    (only : Only (Request.IsOn cluster name) program) (silent : Notes (fun _ => False) program)
    (backend : Backend ρ) (state : ρ) :
    ∃ value last, ∀ realm : Realm ρ, realm.remote cluster.key name = state →
      program.run backend.environment realm =
        (value, realm.putRemote cluster.key name last) := by
  refine ⟨(program.run backend.single state).1, (program.run backend.single state).2,
    fun realm holds => ?_⟩
  rw [← holds]
  exact run_of_isOn (only []) silent realm

section Talks

variable {α : Type} {cluster : Cluster} {name : String}

theorem Program.only_withConnection {use : Fallible α}
    (only : Only (Request.IsOn cluster name) use.run) :
    Only (Request.IsOn cluster name) (withConnection cluster use).run := by
  refine (only_run_ask trivial).run_bind fun connected => ?_
  refine (only_run_attempt only).run_bind fun result => ?_
  have closes : Only (Request.IsOn cluster name) (tell (.close cluster)) :=
    fun history => keeps_tell.mpr ⟨trivial, fun _ => trivial⟩
  refine Only.run_bind (fun history => keeps_run_lift.mpr (closes history)) fun closed => ?_
  exact only_run_result

theorem Program.only_deleteRemote (cluster : Cluster) (held : Namespace) :
    Only (Request.IsOn cluster held.name) (deleteRemote cluster held).run := by
  have asks : Only (Request.IsOn cluster held.name)
      (askServer cluster (.delete held.name)).run :=
    only_run_ask (Request.isOn_server rfl)
  refine (only_withConnection (only_run_attempt asks)).run_bind fun deleted => ?_
  cases deleted with
  | ok deleted => exact only_run_pure
  | error error =>
      dsimp only
      split
      · exact only_run_pure
      · exact only_run_throw

theorem Program.only_isOn_register (cluster : Cluster) (held : Namespace) :
    Only (Request.IsOn cluster held.name) (register cluster held).run := by
  refine fun history => (only_register history).mono ?_ fun _ _ any => any
  rintro _ _ ⟨request, rfl, target, _⟩
  exact Request.isOn_server target

end Talks

/-! ### What is under the deadline -/

/-- The namespace with its readiness reported, where the pass was a success. -/
def Namespace.readied (ns : Namespace) (now : Instant) : Except Error Outcome → Namespace
  | .ok .success =>
      ns.mapConditions fun conditions => (Condition.set (readyCondition now) conditions).1
  | _ => ns

/-- Only the cluster that was found has a server to talk to. -/
theorem Namespace.found_of_task {ns : Namespace} {found : Option Cluster} {cluster : Cluster}
    (task : ns.task found = .ok (.delete cluster) ∨ ns.task found = .ok (.converge cluster)) :
    found = some cluster := by
  unfold Namespace.task at task
  split at task
  · split at task <;> rcases task with task | task <;> cases task
  · split at task
    · rcases task with task | task <;> cases task
    · split at task
      · split at task <;> rcases task with task | task <;> cases task
        rfl
      · rcases task with task | task <;> cases task
        rfl

theorem Program.run_task (backend : Backend ρ) (late : Error) (ns : Namespace) (realm : Realm ρ) :
    (limit (.error late) (do
      let cluster ← askStore (.getCluster ns.clusterKey)
      ns.task cluster : Fallible Namespace.Task).run).run backend.environment realm =
        (ns.task (realm.store.clusters.get? ns.clusterKey), realm) := by
  change (limit (.error late) (liftM (ns.task (realm.store.clusters.get? ns.clusterKey)) :
    Fallible Namespace.Task).run).run backend.environment realm = _
  cases ns.task (realm.store.clusters.get? ns.clusterKey) <;> rfl

theorem Program.run_namespaceBody (backend : Backend ρ) (settings : Settings) (now : Instant)
    (key : ObjectKey) (ns : Namespace) (realm : Realm ρ) :
    (namespaceBody settings now key ns).run backend.environment realm =
      let late := Error.timeout key.text settings.passTimeout
      match ns.task (realm.store.clusters.get? ns.clusterKey) with
      | .error error => ((ns, .error error), realm)
      | .ok .release => ((ns.removeFinalizer, .ok .finished), realm)
      | .ok .wait => ((ns, .ok (.requeue settings.pollInterval)), realm)
      | .ok .leave => ((ns, .ok .finished), realm)
      | .ok (.delete cluster) =>
          match (limit (.error late) (deleteRemote cluster ns).run).run
            backend.environment realm with
          | (.error error, later) => ((ns, .error error), later)
          | (.ok (), later) => ((ns.removeFinalizer, .ok .finished), later)
      | .ok (.converge cluster) =>
          let ns := ns.alignFinalizer
          match (limit (.error late) (withConnection cluster (register cluster ns)).run).run
            backend.environment realm with
          | (.error error, later) => ((ns, .error error), later)
          | (.ok (), later) => ((ns.readied now (.ok .success), .ok .success), later) := by
  unfold namespaceBody
  dsimp only
  refine (run_bind _ _ _ realm).trans ?_
  rw [run_task]
  cases ns.task (realm.store.clusters.get? ns.clusterKey) with
  | error error => rfl
  | ok task =>
      cases task with
      | release => rfl
      | wait => rfl
      | leave => rfl
      | delete cluster =>
          refine (run_bind _ _ _ realm).trans ?_
          dsimp only
          generalize run backend.environment _ realm = talked
          rcases talked with ⟨error | done, later⟩ <;> rfl
      | converge cluster =>
          refine (run_bind _ _ _ realm).trans ?_
          dsimp only
          generalize run backend.environment _ realm = talked
          rcases talked with ⟨error | done, later⟩ <;> rfl

/-- What comes of a pass depends on the cluster and on what the server keeps of the namespace, and
not on the time. -/
theorem Program.exists_run_namespaceBody (backend : Backend ρ) (settings : Settings)
    (key : ObjectKey) (ns : Namespace) (found : Option Cluster) (state : ρ)
    (own : ∀ cluster, found = some cluster → cluster.key = ns.clusterKey) :
    ∃ (left : Namespace) (result : Except Error Outcome) (last : ρ), left.status = ns.status ∧
      ∀ (now : Instant) (realm : Realm ρ), realm.store.clusters.get? ns.clusterKey = found →
        realm.remote ns.clusterKey ns.name = state →
          (namespaceBody settings now key ns).run backend.environment realm =
            ((left.readied now result, result), realm.putRemote ns.clusterKey ns.name last) := by
  let late := Error.timeout key.text settings.passTimeout
  -- nothing changes on the server where the task asks nothing of it
  have untouched (realm : Realm ρ) (holds : realm.remote ns.clusterKey ns.name = state) :
      realm.putRemote ns.clusterKey ns.name state = realm := by
    rw [← holds, Realm.putRemote_self]
  cases task : ns.task found with
  | error error =>
      refine ⟨ns, .error error, state, rfl, fun now realm is holds => ?_⟩
      rw [run_namespaceBody, is, task, untouched realm holds]
      rfl
  | ok todo =>
      cases todo with
      | release =>
          refine ⟨ns.removeFinalizer, .ok .finished, state, rfl, fun now realm is holds => ?_⟩
          rw [run_namespaceBody, is, task, untouched realm holds]
          rfl
      | wait =>
          refine ⟨ns, .ok (.requeue settings.pollInterval), state, rfl,
            fun now realm is holds => ?_⟩
          rw [run_namespaceBody, is, task, untouched realm holds]
          rfl
      | leave =>
          refine ⟨ns, .ok .finished, state, rfl, fun now realm is holds => ?_⟩
          rw [run_namespaceBody, is, task, untouched realm holds]
          rfl
      | delete cluster =>
          have isKey := own cluster (Namespace.found_of_task (.inl task))
          rcases exists_run_of_isOn ((only_deleteRemote cluster ns).limit)
            (notes_deleteRemote cluster ns).limit backend state with ⟨answer, last, talks⟩
          rw [isKey] at talks
          cases answer with
          | error error =>
              refine ⟨ns, .error error, last, rfl, fun now realm is holds => ?_⟩
              rw [run_namespaceBody, is, task]
              dsimp only
              rw [talks realm holds]
              rfl
          | ok done =>
              refine ⟨ns.removeFinalizer, .ok .finished, last, rfl, fun now realm is holds => ?_⟩
              rw [run_namespaceBody, is, task]
              dsimp only
              rw [talks realm holds]
              rfl
      | converge cluster =>
          have isKey := own cluster (Namespace.found_of_task (.inr task))
          have same := ns.frame_alignFinalizer.2.1
          have only := only_withConnection (only_isOn_register cluster ns.alignFinalizer)
          rcases exists_run_of_isOn only.limit
            (notes_withConnection (notes_register cluster _)).limit backend state with
              ⟨answer, last, talks⟩
          rw [isKey, ns.name_alignFinalizer] at talks
          cases answer with
          | error error =>
              refine ⟨ns.alignFinalizer, .error error, last, same, fun now realm is holds => ?_⟩
              rw [run_namespaceBody, is, task]
              dsimp only
              rw [talks realm holds]
              rfl
          | ok done =>
              refine ⟨ns.alignFinalizer, .ok .success, last, same, fun now realm is holds => ?_⟩
              rw [run_namespaceBody, is, task]
              dsimp only
              rw [talks realm holds]

/-! ### What is written -/

theorem Namespace.steady_record {ns left : Namespace} (same : left.status = ns.status)
    (result : Except Error Outcome) :
    ns.Steady fun now => (left.readied now result).record now result := by
  have initial : left.statusOrInitial = ns.statusOrInitial := by
    rw [Resource.statusOrInitial, Resource.statusOrInitial, same]
  cases result with
  | error error =>
      refine Resource.steady_of_timeless NamespaceStatus.mk
        (Condition.timeless_markError error.reason error.message) (fun _ _ => rfl)
        (fun now => ?_) (fun _ => rfl) fun _ => rfl
      rw [← initial]
      rfl
  | ok outcome =>
      cases outcome with
      | success =>
          have timeless : Condition.Timeless fun now conditions =>
              Condition.markSuccess now (Condition.set (readyCondition now) conditions).1 :=
            Condition.timeless_markSuccess_set (fun _ _ => rfl) (fun _ => rfl) (by decide)
              (by decide)
          refine Resource.steady_of_timeless NamespaceStatus.mk timeless
            (fun _ _ => rfl) (fun now => ?_) (fun _ => rfl) fun _ => rfl
          rw [← initial]
          rfl
      | requeue delay => exact ⟨fun _ _ => rfl, fun _ _ => rfl, fun _ _ unchanged => unchanged⟩
      | finished => exact ⟨fun _ _ => rfl, fun _ _ => rfl, fun _ _ unchanged => unchanged⟩

/-- A namespace after a pass that has read it, in a store that has written nothing since. -/
def Namespace.writtenBack (ns after : Namespace) (writer : Store) : Option Namespace :=
  if (ObjectPatch.between ns after).isEmpty then some ns
  else ns.patched (.between ns after) writer

/-- The store after the write at the end of a pass. -/
def Store.writeBackNamespace (key : ObjectKey) (ns after : Namespace) (store : Store) : Store :=
  if (ObjectPatch.between ns after).isEmpty then store
  else (store.patchNamespace key (.between ns after)).2

namespace Store

variable {store : Store} {key : ObjectKey} {ns after : Namespace}

theorem get?_writeBackNamespace (there : store.namespaces.get? key = some ns) :
    (store.writeBackNamespace key ns after).namespaces.get? key =
      ns.writtenBack after store.advance := by
  unfold writeBackNamespace Namespace.writtenBack
  split
  · exact there
  · exact (patchNamespace_of_current there rfl).2

/-- The write at the end of a pass is about the namespace only. -/
theorem frame_writeBackNamespace (store : Store) (key : ObjectKey) (ns after : Namespace) :
    (store.writeBackNamespace key ns after).clusters = store.clusters ∧
      (store.writeBackNamespace key ns after).children = store.children ∧
      ∀ other, key ≠ other →
        (store.writeBackNamespace key ns after).namespaces.get? other =
          store.namespaces.get? other := by
  unfold writeBackNamespace
  split
  · exact ⟨rfl, rfl, fun _ _ => rfl⟩
  · refine ⟨clusters_patchNamespace .., ?_, fun other ne => get?_patchNamespace_of_ne ne⟩
    dsimp only [patchNamespace]
    split <;> rfl

end Store

/-- What a pass leaves of its namespace is the same at any time, but for version and times. -/
theorem Namespace.essence_writtenBack {ns : Namespace} {after : Instant → Namespace}
    (steady : ns.Steady after) (now later : Instant) (writer other : Store) :
    (ns.writtenBack (after now) writer).map Resource.essence =
      (ns.writtenBack (after later) other).map Resource.essence := by
  unfold writtenBack
  rw [steady.isEmpty_between now later]
  split
  · rfl
  · have same := steady.essence_withPatch now later writer other
    have released :
        (ns.withPatch (.between ns (after now)) writer).metadata.isReleased =
          (ns.withPatch (.between ns (after later)) other).metadata.isReleased :=
      (congrArg (fun essence : Namespace => essence.metadata.isReleased) same :)
    unfold patched
    rw [released]
    split
    · rfl
    · exact congrArg some same

/-! ### Whole passes -/

namespace Backend

/-- Nothing but the index knows of a namespace that does not exist. -/
theorem pass_ns_of_none (backend : Backend ρ) (settings : Settings) {key : ObjectKey}
    (now : Instant) {realm : Realm ρ} (absent : realm.store.namespaces.get? key = none) :
    backend.pass settings (.ns key) now realm =
      (.ok .awaitChange,
        { realm with
          operator := realm.operator.keepAll
            [.noted (.unlisted key), .noted (.settled (Namespace.failureKey key))] }) := by
  let noted : Realm ρ := { realm with operator := realm.operator.take (.unlisted key) }
  have ran : ((Subject.ns key).program settings now).run backend.environment realm =
      (conclude (Subject.ns key).failureKey (.ok .finished)).run.run backend.environment noted := by
    unfold Subject.program reconcileNamespace
    dsimp only
    rw [run_run_bind, run_askStore]
    dsimp only [Store.answer]
    rw [absent]
    rfl
  exact pass_of_run ran

/-- A pass over a namespace is determined by the namespace, by its cluster and by what the server
keeps of it. -/
theorem exists_pass_ns (backend : Backend ρ) (settings : Settings) (key : ObjectKey)
    (ns : Namespace) (found : Option Cluster) (state : ρ)
    (own : ∀ cluster, found = some cluster → cluster.key = ns.clusterKey) :
    ∃ (after : Instant → Namespace) (result : Except Error Outcome) (last : ρ), ns.Steady after ∧
      ∀ (now : Instant) (realm : Realm ρ), realm.store.namespaces.get? key = some ns →
        realm.store.clusters.get? ns.clusterKey = found →
        realm.remote ns.clusterKey ns.name = state →
          backend.pass settings (.ns key) now realm =
            (conclusion result,
              { store := realm.store.writeBackNamespace key ns (after now)
                operator := realm.operator.keepAll <|
                  .noted (.listed ns) :: Upkeep.closing (Namespace.failureKey key) result
                remote := (realm.putRemote ns.clusterKey ns.name last).remote }) := by
  rcases exists_run_namespaceBody backend settings key ns found state own with
    ⟨left, result, last, same, runs⟩
  refine ⟨fun now => (left.readied now result).record now result, result, last,
    Namespace.steady_record same result, fun now realm there is holds => ?_⟩
  let noted : Realm ρ := { realm with operator := realm.operator.take (.listed ns) }
  let middle : Realm ρ := noted.putRemote ns.clusterKey ns.name last
  let after := (left.readied now result).record now result
  have ran : ((Subject.ns key).program settings now).run backend.environment realm =
      (conclude (Subject.ns key).failureKey result).run.run backend.environment
        { middle with store := middle.store.writeBackNamespace key ns after } := by
    unfold Subject.program reconcileNamespace
    dsimp only
    rw [run_run_bind, run_askStore]
    dsimp only [Store.answer]
    rw [there]
    dsimp only
    rw [run_run_bind, run_write]
    dsimp only
    rw [run_run_bind, run_run_lift, runs now noted is holds]
    dsimp only
    have accepted : (askStore (.patchNamespace key (.between ns after))).run.run
        backend.environment middle =
          (.ok (), { middle with
            store := (middle.store.patchNamespace key (.between ns after)).2 }) := by
      rw [run_askStore]
      exact Prod.ext (Store.patchNamespace_of_current there rfl).1 rfl
    rw [run_closing fun _ => accepted]
    unfold Store.writeBackNamespace
    split <;> rfl
  exact pass_of_run ran

end Backend

/-- Passes over a namespace are local. -/
theorem Backend.local_ns (backend : Backend ρ) (settings : Settings) (key : ObjectKey)
    {start : Realm ρ} (named : start.store.Named) : backend.Local settings start (.ns key) := by
  cases there : start.store.namespaces.get? key with
  | none =>
      refine local_of_idle ?_ fun now realm same =>
        backend.pass_ns_of_none settings now (Eq.trans (same _ (.own (.ns key))) there)
      rintro upkeep (_ | ⟨_, _ | ⟨_, ⟨⟩⟩⟩) <;> rfl
  | some ns =>
      have own (cluster : Cluster)
          (found : start.store.clusters.get? ns.clusterKey = some cluster) :
          cluster.key = ns.clusterKey :=
        named.clusterKeys _ _ found
      rcases backend.exists_pass_ns settings key ns _ (start.remote ns.clusterKey ns.name) own with
        ⟨after, result, last, steady, passes⟩
      let next (now : Instant) (realm : Realm ρ) : Realm ρ :=
        { realm.putRemote ns.clusterKey ns.name last with
          store := realm.store.writeBackNamespace key ns (after now) }
      have areOf : ∀ upkeep ∈
          .noted (.listed ns) :: Upkeep.closing (Subject.ns key).failureKey result,
          upkeep.IsOf (.ns key) := by
        rintro upkeep (_ | ⟨_, closes⟩)
        · exact congrArg Subject.ns (named.namespaces key ns there).symm
        · exact Upkeep.isOf_closing upkeep closes
      refine local_of_pass next areOf
        (fun now realm same => passes now realm (Eq.trans (same _ (.own (.ns key))) there)
          (same _ (.cluster there)) (same _ (.own (.remote there))))
        (fun now realm same place other => ?_) fun now realm same place own => ?_
      · rcases realm.store.frame_writeBackNamespace key ns (after now) with
          ⟨clusters, children, others⟩
        cases place with
        | cluster second => exact congrArg (·.get? second) clusters
        | child second => exact congrArg (·.get? second) children
        | ns second =>
            refine others second ?_
            rintro rfl
            exact other (.ns key)
        | remote cluster name =>
            refine if_neg ?_
            rintro ⟨rfl, rfl⟩
            exact other (.remote there)
      · cases own with
        | ns =>
            have found : realm.store.namespaces.get? key = some ns :=
              Eq.trans (same _ (.own (.ns key))) there
            dsimp only [Realm.AlikeAt, next]
            rw [Store.get?_writeBackNamespace found, Store.get?_writeBackNamespace there]
            exact Namespace.essence_writtenBack steady _ _ _ _
        | remote found =>
            cases there.symm.trans found
            exact (Realm.remote_putRemote_self realm _ _ last).trans
              (Realm.remote_putRemote_self start _ _ last).symm

end ClusterOperator
