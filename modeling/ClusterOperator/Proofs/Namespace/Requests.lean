import ClusterOperator.Pass.Namespace
import ClusterOperator.Proofs.Program.History

/-!
# What namespace passes ask

A pass reads its object, then the object's cluster; what it asks of a server and how it leaves the
object depends on these two. `Namespace.Asks` lists the requests of a pass with what each one is
made after, `Namespace.Leaves` the ways in which a pass can leave its object, and `Namespace.Ends`
says that the difference is written at the end, if there is one.
-/

namespace ClusterOperator

/-- Whether a server says that a namespace is deleted, or that it is not there. -/
def confirmsDeletion : Except Error Unit → Bool
  | .ok () => true
  | .error error => error.isNotFound

namespace History

/-- The namespace was read as this object. -/
def Read (history : History) (key : ObjectKey) (held : Namespace) : Prop :=
  .answered (.store (.getNamespace key)) (.ok (some held)) ∈ history

/-- The cluster that an object names was read as this one, or as absent. -/
def Found (history : History) (held : Namespace) (cluster : Option Cluster) : Prop :=
  .answered (.store (.getCluster held.clusterKey)) (.ok cluster) ∈ history

/-- There was a connection to the server of a cluster. -/
def Connected (history : History) (cluster : Cluster) : Prop :=
  .answered (.connect cluster) (.ok ()) ∈ history

/-- A server said that a namespace is deleted, or that it is not there. -/
def Deleted (history : History) (name : String) : Prop :=
  ∃ cluster answer,
    .answered (.server cluster (.delete name)) answer ∈ history ∧ confirmsDeletion answer

/-- What a pass has asked when it has read its object and the object's cluster. -/
abbrev gate (key : ObjectKey) (held : Namespace) (cluster : Option Cluster) : History :=
  [.answered (.store (.getCluster held.clusterKey)) (.ok cluster),
    .answered (.store (.getNamespace key)) (.ok (some held))]

/-- What allows to take the finalizer off an object that is being deleted. -/
def MayRelease (history : History) (held : Namespace) : Prop :=
  history.Found held none ∨ history.Deleted held.name

/-- The deadline did not strike. -/
def InTime (history : History) : Prop := ∀ request, .cut request ∉ history

theorem not_inTime_of_cut {request : Request} {history : History} :
    ¬ InTime (.cut request :: history) :=
  fun inTime => inTime request (List.mem_cons_self ..)

/-- No namespace was patched. -/
def Unwritten (history : History) : Prop :=
  ∀ key patch, ¬ history.Asked (.store (.patchNamespace key patch))

theorem Unwritten.of_suffix {earlier history : History} (unwritten : history.Unwritten)
    (suffix : earlier <:+ history) : earlier.Unwritten := by
  rintro key patch ⟨exchange, asked, same⟩
  exact unwritten key patch ⟨exchange, suffix.subset asked, same⟩

end History

namespace Namespace

/-- How a pass leaves its object, and what comes of the pass, given what it has asked. -/
inductive Leaves (held : Namespace) (history : History) :
    Namespace → Except Error Outcome → Prop
  | alone {result : Except Error Outcome} (unsuccessful : result ≠ .ok .success)
      (unregistered : ∀ cluster request, ¬ history.Asked (.server cluster (.register request)))
      (thorough : held.metadata.isDeleting → ∀ cluster, history.Connected cluster →
        history.Asked (.server cluster (.delete held.name)))
      (kept : held.metadata.isDeleting → held.hasFinalizer → history.InTime →
        ¬ history.MayRelease held) :
      Leaves held history held result
  | released (deleting : held.metadata.isDeleting)
      (unregistered : ∀ cluster request, ¬ history.Asked (.server cluster (.register request)))
      (thorough : ∀ cluster, history.Connected cluster →
        history.Asked (.server cluster (.delete held.name)))
      (grounds : history.MayRelease held) :
      Leaves held history held.removeFinalizer (.ok .finished)
  | unconverged {cluster : Cluster} {error : Error} (alive : held.metadata.isDeleting = false)
      (found : history.Found held (some cluster)) (ready : cluster.isReady) :
      Leaves held history held.alignFinalizer (.error error)
  | converged {cluster : Cluster} {change : List Condition → List Condition}
      (alive : held.metadata.isDeleting = false)
      (found : history.Found held (some cluster)) (ready : cluster.isReady) :
      Leaves held history (held.alignFinalizer.mapConditions change) (.ok .success)

section Leaves

variable {held changed : Namespace} {history : History} {result : Except Error Outcome}

/-- A pass that the deadline strikes leaves its object alone. -/
theorem Leaves.of_cut {request : Request} {error : Error}
    (unregistered : ∀ cluster asked,
      ¬ History.Asked (.cut request :: history) (.server cluster (.register asked)))
    (thorough : held.metadata.isDeleting → ∀ cluster,
      History.Connected (.cut request :: history) cluster →
        History.Asked (.cut request :: history) (.server cluster (.delete held.name))) :
    Leaves held (.cut request :: history) held (.error error) := by
  refine .alone nofun unregistered thorough ?_
  intro _ _ inTime
  exact absurd inTime History.not_inTime_of_cut

/-- A pass over an object that is being deleted leaves it alone, or takes the finalizer off. -/
theorem Leaves.deleting_cases (leaves : Leaves held history changed result)
    (deleting : held.metadata.isDeleting) :
    changed = held ∧ (held.hasFinalizer → history.InTime → ¬ history.MayRelease held) ∨
      changed = held.removeFinalizer ∧ result = .ok .finished ∧ history.MayRelease held := by
  cases leaves with
  | alone _ _ _ kept => exact .inl ⟨rfl, kept deleting⟩
  | released _ _ _ grounds => exact .inr ⟨rfl, rfl, grounds⟩
  | unconverged alive =>
      rw [deleting] at alive
      cases alive
  | converged alive =>
      rw [deleting] at alive
      cases alive

/-- Once connected, a pass over an object that is being deleted asks to delete. -/
theorem Leaves.asked_delete {cluster : Cluster} (leaves : Leaves held history changed result)
    (deleting : held.metadata.isDeleting) (connected : history.Connected cluster) :
    history.Asked (.server cluster (.delete held.name)) := by
  cases leaves with
  | alone _ _ thorough => exact thorough deleting cluster connected
  | released _ _ thorough => exact thorough cluster connected
  | unconverged alive =>
      rw [deleting] at alive
      cases alive
  | converged alive =>
      rw [deleting] at alive
      cases alive

end Leaves

/-- The patch that a pass writes at its end. -/
def patch (now : Instant) (held changed : Namespace) (result : Except Error Outcome) :
    ObjectPatch NamespaceStatus :=
  .between held (changed.record now result)

/-- What a pass asks before it writes, and after what. -/
inductive Prepares (key : ObjectKey) : History → Request → Prop
  | object : Prepares key [] (.store (.getNamespace key))
  | cluster (held : Namespace) :
      Prepares key [.answered (.store (.getNamespace key)) (.ok (some held))]
        (.store (.getCluster held.clusterKey))
  | connect {history : History} {held : Namespace} {cluster : Cluster}
      (read : history.Read key held) (found : history.Found held (some cluster))
      (ready : cluster.isReady) (needed : held.metadata.isDeleting → held.hasFinalizer) :
      Prepares key history (.connect cluster)
  | delete {history : History} {held : Namespace} {cluster : Cluster}
      (read : history.Read key held) (found : history.Found held (some cluster))
      (ready : cluster.isReady) (deleting : held.metadata.isDeleting)
      (finalizer : held.hasFinalizer) (connected : history.Connected cluster) :
      Prepares key history (.server cluster (.delete held.name))
  | converge {history : History} {held : Namespace} {cluster : Cluster} {request : ServerRequest}
      (read : history.Read key held) (found : history.Found held (some cluster))
      (ready : cluster.isReady) (alive : held.metadata.isDeleting = false)
      (connected : history.Connected cluster) (target : request.target = held.name)
      (other : ∀ name, request ≠ .delete name) :
      Prepares key history (.server cluster request)
  | close {history : History} {cluster : Cluster} (connected : history.Connected cluster) :
      Prepares key history (.close cluster)

/-- What a pass asks, and after what. -/
inductive Asks (key : ObjectKey) : History → Request → Prop
  | prepare {history : History} {request : Request} (prepares : Prepares key history request) :
      Asks key history request
  | write {history : History} {held changed : Namespace} {result : Except Error Outcome}
      (now : Instant) (read : history.Read key held) (unwritten : history.Unwritten)
      (leaves : Leaves held history changed result) :
      Asks key history (.store (.patchNamespace key (patch now held changed result)))

/-- How a pass ends: the object is as the pass leaves it, or that was to be written. -/
inductive Ends (key : ObjectKey) : History → Prop
  | unread {history : History} (unread : ∀ held, ¬ history.Read key held) : Ends key history
  | unchanged {history : History} {held changed : Namespace} {result : Except Error Outcome}
      (now : Instant) (read : history.Read key held) (leaves : Leaves held history changed result)
      (empty : (patch now held changed result).isEmpty) : Ends key history
  | patched {history : History} {held changed : Namespace} {result : Except Error Outcome}
      (now : Instant) (read : history.Read key held) (leaves : Leaves held history changed result)
      (answer : Except Error Unit) :
      Ends key
        (.answered (.store (.patchNamespace key (patch now held changed result))) answer :: history)

end Namespace

/-- A pass reads its object before everything else. -/
theorem Namespace.Asks.past_of_read {key other : ObjectKey} {history : History}
    (asks : Namespace.Asks key history (.store (.getNamespace other))) :
    other = key ∧ history = [] := by
  cases asks with
  | prepare prepares =>
      cases prepares
      exact ⟨rfl, rfl⟩

/-- A pass patches its own object, with the difference between what it read and what it leaves. -/
theorem Namespace.Asks.patch_cases {key other : ObjectKey} {history : History}
    {sent : ObjectPatch NamespaceStatus}
    (asks : Namespace.Asks key history (.store (.patchNamespace other sent))) :
    other = key ∧ history.Unwritten ∧ ∃ now held changed result, history.Read key held ∧
      Namespace.Leaves held history changed result ∧
      sent = Namespace.patch now held changed result := by
  cases asks with
  | prepare prepares => cases prepares
  | write now read unwritten leaves =>
      exact ⟨rfl, unwritten, now, _, _, _, read, leaves, rfl⟩

/-- A pass asks to delete only what it read as being deleted, on a cluster that is ready. -/
theorem Namespace.Asks.delete_cases {key : ObjectKey} {history : History} {cluster : Cluster}
    {name : String} (asks : Namespace.Asks key history (.server cluster (.delete name))) :
    ∃ held, history.Read key held ∧ name = held.name ∧ held.metadata.isDeleting ∧
      held.hasFinalizer ∧ history.Found held (some cluster) ∧ cluster.isReady ∧
      history.Connected cluster := by
  cases asks with
  | prepare prepares =>
      cases prepares with
      | delete read found ready deleting finalizer connected =>
          exact ⟨_, read, rfl, deleting, finalizer, found, ready, connected⟩
      | converge _ _ _ _ _ _ other => exact absurd rfl (other name)

/-- A pass asks to register only what it read as not being deleted. -/
theorem Namespace.Asks.register_cases {key : ObjectKey} {history : History} {cluster : Cluster}
    {request : NamespaceRequest}
    (asks : Namespace.Asks key history (.server cluster (.register request))) :
    ∃ held, history.Read key held ∧ held.metadata.isDeleting = false := by
  cases asks with
  | prepare prepares =>
      cases prepares with
      | converge read _ _ alive => exact ⟨_, read, alive⟩

/-- Before it writes, a pass has not written. -/
theorem Namespace.Prepares.ne_patch {key other : ObjectKey} {history : History}
    {patch : ObjectPatch NamespaceStatus} :
    ¬ Namespace.Prepares key history (.store (.patchNamespace other patch)) :=
  nofun

theorem History.unwritten_of_follows {key : ObjectKey} {history : History}
    (follows : history.Follows (Namespace.Prepares key)) : history.Unwritten := by
  rintro other patch ⟨exchange, asked, same⟩
  rcases follows.past asked with ⟨past, _, prepares⟩
  rw [same] at prepares
  exact prepares.ne_patch

namespace Namespace

/-- When there is what to do. -/
inductive Due (held : Namespace) : Option Cluster → Except Error Task → Prop
  | release (deleting : held.metadata.isDeleting) : Due held none (.ok .release)
  | missing (alive : held.metadata.isDeleting = false) (error : Error) :
      Due held none (.error error)
  | wait {cluster : Cluster} (unready : cluster.isReady = false) :
      Due held (some cluster) (.ok .wait)
  | delete {cluster : Cluster} (ready : cluster.isReady) (deleting : held.metadata.isDeleting)
      (finalizer : held.hasFinalizer) : Due held (some cluster) (.ok (.delete cluster))
  | leave {cluster : Cluster} (ready : cluster.isReady) (deleting : held.metadata.isDeleting)
      (bare : held.hasFinalizer = false) : Due held (some cluster) (.ok .leave)
  | converge {cluster : Cluster} (ready : cluster.isReady)
      (alive : held.metadata.isDeleting = false) :
      Due held (some cluster) (.ok (.converge cluster))

theorem due_task (held : Namespace) (cluster : Option Cluster) :
    held.Due cluster (held.task cluster) := by
  cases cluster with
  | none =>
      cases deleting : held.metadata.isDeleting with
      | true =>
          simp only [task, deleting, ↓reduceIte]
          exact .release deleting
      | false =>
          simp only [task, deleting, Bool.false_eq_true, ↓reduceIte]
          exact .missing deleting _
  | some cluster =>
      cases ready : cluster.isReady with
      | false =>
          simp only [task, ready, Bool.not_false, ↓reduceIte]
          exact .wait ready
      | true =>
          simp only [task, ready, Bool.not_true, Bool.false_eq_true, ↓reduceIte]
          cases deleting : held.metadata.isDeleting with
          | false =>
              simp only [Bool.false_eq_true, ↓reduceIte]
              exact .converge ready deleting
          | true =>
              simp only [↓reduceIte]
              cases finalizer : held.hasFinalizer with
              | true => exact .delete ready deleting finalizer
              | false => exact .leave ready deleting finalizer

theorem aligned_cases (ns : Namespace) :
    ns.alignFinalizer = ns ∨ ∃ finalizers, ns.alignFinalizer = ns.withFinalizers finalizers := by
  unfold alignFinalizer addFinalizer removeFinalizer
  split
  · split
    · exact .inl rfl
    · exact .inr ⟨_, rfl⟩
  · exact .inr ⟨_, rfl⟩

/-- Aligning the finalizer changes nothing but the finalizers. -/
theorem frame_alignFinalizer (ns : Namespace) :
    ns.alignFinalizer.spec = ns.spec ∧ ns.alignFinalizer.status = ns.status ∧
      ∀ cluster, NamespaceRequest.of cluster ns.alignFinalizer = .of cluster ns := by
  rcases aligned_cases ns with same | ⟨finalizers, same⟩
  · rw [same]
    exact ⟨rfl, rfl, fun _ => rfl⟩
  · rw [same]
    exact ⟨rfl, rfl, fun _ => rfl⟩

/-- The finalizer is no part of the name. -/
theorem name_alignFinalizer (ns : Namespace) : ns.alignFinalizer.name = ns.name := by
  rcases aligned_cases ns with same | ⟨finalizers, same⟩
  · rw [same]
  · rw [same]
    rfl

end Namespace

namespace Program

open Namespace (Prepares Asks Leaves Ends)

/-- A connection is closed after its use, whatever comes of that. -/
theorem keeps_withConnection {α : Type} {allowed : History → Request → Prop} {history : History}
    {fits : History → Except Error α → Prop} {cluster : Cluster} {use : Fallible α} :
    Keeps allowed fits history (withConnection cluster use).run ↔
      allowed history (.connect cluster) ∧ ∀ answer : Except Error Unit,
        match answer with
        | .error error =>
            fits (.answered (.connect cluster) (.error error) :: history) (.error error)
        | .ok () =>
            Keeps allowed
              (fun later result => allowed later (.close cluster) ∧
                ∀ answer, fits (.answered (.close cluster) answer :: later) result)
              (.answered (.connect cluster) (.ok ()) :: history) use.run := by
  unfold withConnection
  simp only [keeps_run_bind, keeps_run_attempt, keeps_run_lift, keeps_tell, keeps_run_result]
  refine and_congr_right fun _ => forall_congr' fun answer => ?_
  cases answer <;> exact Iff.rfl

/-- The request is for the server of a cluster, about one of its namespaces, and not to delete
that. -/
def Converges (cluster : Cluster) (name : String) (request : Request) : Prop :=
  ∃ asked : ServerRequest, request = .server cluster asked ∧ asked.target = name ∧
    ∀ other, asked ≠ .delete other

theorem only_convergeAttributes {cluster : Cluster} {name : String} {spec : StringMap String} :
    Only (Converges cluster name) (convergeAttributes cluster name spec).run := by
  have lists : Converges cluster name (.server cluster (.listAttributes name)) :=
    ⟨_, rfl, rfl, nofun⟩
  have removes (attributes : List String) :
      Converges cluster name (.server cluster (.removeAttributes name attributes)) :=
    ⟨_, rfl, rfl, nofun⟩
  have adds (attributes : StringMap AttributeType) :
      Converges cluster name (.server cluster (.addAttributes name attributes)) :=
    ⟨_, rfl, rfl, nofun⟩
  dsimp only [convergeAttributes]
  refine (only_run_ask lists).run_bind fun present => only_run_result.run_bind fun plan => ?_
  split
  · refine (only_run_ask (removes _)).run_bind fun _ => ?_
    split
    · exact (only_run_ask (adds _)).run_bind fun _ => only_run_pure
    · exact only_run_pure
  · split
    · exact (only_run_ask (adds _)).run_bind fun _ => only_run_pure
    · exact only_run_pure

theorem only_register {cluster : Cluster} {ns : Namespace} :
    Only (Converges cluster ns.name) (register cluster ns).run := by
  have registers (request : NamespaceRequest) (same : request.name = ns.name) :
      Converges cluster ns.name (.server cluster (.register request)) := ⟨_, rfl, same, nofun⟩
  have updates (request : NamespaceRequest) (same : request.name = ns.name) :
      Converges cluster ns.name (.server cluster (.update request)) := ⟨_, rfl, same, nofun⟩
  dsimp only [register]
  refine (only_run_attempt (only_run_ask (registers _ rfl))).run_bind fun registered => ?_
  have attributes : Only (Converges cluster ns.name)
      (discard <| convergeAttributes cluster (NamespaceRequest.of cluster ns).name
        ns.spec.searchAttributes).run :=
    only_convergeAttributes.run_bind fun _ => only_run_pure
  split
  · exact attributes
  · split
    · exact (only_run_ask (updates _ rfl)).run_bind fun _ => attributes
    · exact only_run_throw.run_bind fun _ => attributes

/-- Deleting on the server, for an object that is being deleted and whose cluster is ready. -/
theorem keeps_deletion {key : ObjectKey} {held : Namespace} {cluster : Cluster} {late : Error}
    (ready : cluster.isReady) (deleting : held.metadata.isDeleting)
    (finalizer : held.hasFinalizer) :
    Keeps (Prepares key)
      (fun history result =>
        match result with
        | .ok () => Leaves held history held.removeFinalizer (.ok .finished)
        | .error error => Leaves held history held (.error error))
      (History.gate key held (some cluster))
      (limit (.error late) (deleteRemote cluster held).run) := by
  have connects : Prepares key (History.gate key held (some cluster)) (.connect cluster) :=
    .connect (by simp [History.Read]) (by simp [History.Found]) ready fun _ => finalizer
  refine And.intro connects (And.intro ?_ fun answer => ?_)
  · exact .of_cut (by simp) (by simp [History.Connected])
  cases answer with
  | error error =>
      refine .alone nofun (by simp) (by simp [History.Connected]) ?_
      simp [History.MayRelease, History.Found, History.Deleted]
  | ok answer =>
      have deletes : Prepares key
          (.answered (.connect cluster) (.ok answer) :: History.gate key held (some cluster))
          (.server cluster (.delete held.name)) :=
        .delete (by simp [History.Read]) (by simp [History.Found]) ready deleting finalizer
          (by simp [History.Connected])
      refine And.intro deletes (And.intro ?_ fun answer => ?_)
      · exact .of_cut (by simp) (by simp [History.Connected])
      refine And.intro (.close (by simp [History.Connected])) (And.intro ?_ fun closed => ?_)
      · exact .of_cut (by simp) (by simp [History.Connected])
      cases answer with
      | ok answer =>
          refine .released deleting (by simp) (by simp [History.Connected]) (.inr ?_)
          exact ⟨cluster, .ok (), by simp, rfl⟩
      | error error =>
          change Keeps (Prepares key) _ _
            (limit (.error late)
              (if error.isNotFound then pure () else throw error : Fallible Unit).run)
          split
          · refine .released deleting (by simp) (by simp [History.Connected]) (.inr ?_)
            exact ⟨cluster, .error error, by simp, ‹_›⟩
          · refine .alone nofun (by simp) (by simp [History.Connected]) ?_
            simp [History.MayRelease, History.Found, History.Deleted, confirmsDeletion, *]

/-- Registering, for an object that is not being deleted and whose cluster is ready. -/
theorem keeps_convergence {key : ObjectKey} {held : Namespace} {cluster : Cluster} {late : Error}
    (ready : cluster.isReady) (alive : held.metadata.isDeleting = false) :
    Keeps (Prepares key)
      (fun history result =>
        match result with
        | .ok () => ∀ change : List Condition → List Condition,
            Leaves held history (held.alignFinalizer.mapConditions change) (.ok .success)
        | .error error => Leaves held history held.alignFinalizer (.error error))
      (History.gate key held (some cluster))
      (limit (.error late)
        (withConnection cluster (register cluster held.alignFinalizer)).run) := by
  have leaves (history : History) (later : History.gate key held (some cluster) <:+ history)
      (result : Except Error Unit) :
      match result with
      | .ok () => ∀ change : List Condition → List Condition,
          Leaves held history (held.alignFinalizer.mapConditions change) (.ok .success)
      | .error error => Leaves held history held.alignFinalizer (.error error) := by
    have found : history.Found held (some cluster) := later.subset (List.mem_cons_self ..)
    cases result with
    | ok _ => exact fun change => .converged alive found ready
    | error error => exact .unconverged alive found ready
  have connects : Prepares key (History.gate key held (some cluster)) (.connect cluster) := by
    have read : (History.gate key held (some cluster)).Read key held := by simp [History.Read]
    refine .connect read (by simp [History.Found]) ready ?_
    rw [alive]
    exact nofun
  refine Keeps.limit (keeps_withConnection.mpr ⟨connects, fun answer => ?_⟩) ?_
  · cases answer with
    | error error => exact leaves _ (List.suffix_cons _ _) (.error error)
    | ok answer =>
        refine (only_register _).since_start.mono ?_ ?_
        · rintro history request ⟨later, asked, rfl, target, other⟩
          refine
            .converge (later.subset ?_) (later.subset ?_) ready alive (later.subset ?_) ?_ other
          · simp
          · simp
          · simp
          · rw [target, Namespace.name_alignFinalizer]
        · intro history result later
          refine ⟨.close (later.1.subset (List.mem_cons_self ..)), fun closed => ?_⟩
          refine leaves _ ?_ result
          exact (List.suffix_cons _ _).trans (later.1.trans (List.suffix_cons _ _))
  · intro history request later _
    exact leaves _ (later.trans (List.suffix_cons _ _)) (.error late)

/-- What the part of a pass that is under the deadline asks, and how it leaves the object. -/
theorem keeps_namespaceBody (settings : Settings) (now : Instant) (key : ObjectKey)
    (held : Namespace) :
    Keeps (Prepares key) (fun history left => Leaves held history left.1 left.2)
      [.answered (.store (.getNamespace key)) (.ok (some held))]
      (namespaceBody settings now key held) := by
  dsimp only [namespaceBody]
  rw [keeps_bind]
  refine And.intro (.cluster held) (And.intro ?_ fun answer => ?_)
  · exact .of_cut (by simp) (by simp [History.Connected])
  cases answer with
  | error error =>
      refine .alone nofun (by simp) (by simp [History.Connected]) ?_
      simp [History.MayRelease, History.Found, History.Deleted]
  | ok cluster =>
      have due := held.due_task cluster
      change Keeps (Prepares key) _ (History.gate key held cluster) (done (held.task cluster))
      generalize held.task cluster = task at due ⊢
      cases due with
      | release deleting =>
          refine .released deleting (by simp) (by simp [History.Connected]) (.inl ?_)
          exact List.mem_cons_self ..
      | missing alive error =>
          refine .alone nofun (by simp) (by simp [History.Connected]) ?_
          rw [alive]
          exact nofun
      | wait unready =>
          refine .alone nofun (by simp) (by simp [History.Connected]) ?_
          simp [History.MayRelease, History.Found, History.Deleted]
      | delete ready deleting finalizer =>
          refine keeps_bind.mpr ((keeps_deletion ready deleting finalizer).mono ?_ ?_)
          · exact fun _ _ asks => asks
          · intro history result leaves
            cases result <;> exact leaves
      | leave ready deleting bare =>
          refine .alone nofun (by simp) (by simp [History.Connected]) ?_
          rw [bare]
          exact nofun
      | converge ready alive =>
          refine keeps_bind.mpr ((keeps_convergence ready alive).mono ?_ ?_)
          · exact fun _ _ asks => asks
          · intro history result leaves
            cases result with
            | ok _ =>
                exact leaves fun conditions => ((Namespace.readyCondition now).set conditions).1
            | error error => exact leaves

/-- What a pass asks, and how it ends. -/
theorem keeps_reconcileNamespace (settings : Settings) (now : Instant) (key : ObjectKey) :
    Keeps (Asks key) (fun history _ => Ends key history) []
      (reconcileNamespace settings now key).run := by
  have concluded {history : History} {outcome : Except Error Outcome} (ends : Ends key history) :
      Keeps (Asks key) (fun history _ => Ends key history) history
        (conclude (Namespace.failureKey key) outcome).run := by
    cases outcome with
    | ok outcome => exact ends
    | error error =>
        dsimp only [conclude]
        split <;> exact ends
  dsimp only [reconcileNamespace]
  refine keeps_run_bind.mpr (And.intro (.prepare .object) fun answer => ?_)
  cases answer with
  | error error =>
      refine .unread fun held read => ?_
      simp [History.Read] at read
  | ok found =>
      cases found with
      | none =>
          refine .unread fun held read => ?_
          simp [History.Read] at read
      | some held =>
          have body := (keeps_namespaceBody settings now key held).follows ⟨.object, trivial⟩
          refine keeps_run_bind.mpr (keeps_run_lift.mpr (keeps_write.mpr ?_))
          refine keeps_run_bind.mpr (keeps_run_lift.mpr (body.since_start.mono ?_ ?_))
          · exact fun _ _ asks => .prepare asks.2
          rintro history ⟨changed, result⟩ ⟨later, follows, leaves⟩
          have read : history.Read key held := later.subset (List.mem_cons_self ..)
          have unwritten := History.unwritten_of_follows follows
          dsimp only
          split
          · refine keeps_run_bind.mpr (concluded ?_)
            exact .unchanged now read leaves ‹_›
          · refine keeps_run_bind.mpr (keeps_run_attempt.mpr ?_)
            refine And.intro (.write now read unwritten leaves) fun answer => concluded ?_
            exact .patched now read leaves answer

end Program

end ClusterOperator
