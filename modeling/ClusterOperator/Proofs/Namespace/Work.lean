import ClusterOperator.Proofs.Namespace.Talk

/-!
# The work of a namespace pass

What happens in the part of a pass that is under the deadline, from the reading of the cluster to
the object as the pass leaves it. `Namespace.Work` has one rule for each way through it: which calls
are made, what becomes of the object, and what comes of the pass. What is said about passes
elsewhere follows from a look at these rules.

A pass succeeds in one way only: it has found the cluster ready, the server of that has accepted the
namespace, and all that the attributes of the spec asked for was done.
-/

namespace ClusterOperator

open Program

namespace Namespace

/-- The ways through the part of a pass that is under the deadline, with the namespace as the pass
leaves it and what came of it. -/
inductive Work (settings : Settings) (now : Instant) (key : ObjectKey) (held : Namespace) :
    List Exchange → Namespace → Except Error Outcome → Prop
  | unread {reading : Exchange} (error : Error)
      (reads : reading.request = .store (.getCluster held.clusterKey))
      (unread : ∀ cluster,
        reading ≠ .answered (.store (.getCluster held.clusterKey)) (.ok cluster)) :
      Work settings now key held [reading] held (.error error)
  | missing (alive : held.metadata.isDeleting = false) (error : Error) :
      Work settings now key held [.answered (.store (.getCluster held.clusterKey)) (.ok none)]
        held (.error error)
  | released (deleting : held.metadata.isDeleting) :
      Work settings now key held [.answered (.store (.getCluster held.clusterKey)) (.ok none)]
        held.removeFinalizer (.ok .finished)
  | waiting {cluster : Cluster} (unready : cluster.isReady = false) :
      Work settings now key held
        [.answered (.store (.getCluster held.clusterKey)) (.ok (some cluster))]
        held (.ok (.requeue settings.pollInterval))
  | bare {cluster : Cluster} (ready : cluster.isReady) (deleting : held.metadata.isDeleting)
      (bare : held.hasFinalizer = false) :
      Work settings now key held
        [.answered (.store (.getCluster held.clusterKey)) (.ok (some cluster))]
        held (.ok .finished)
  | deleted {cluster : Cluster} {talk : List Exchange} (ready : cluster.isReady)
      (deleting : held.metadata.isDeleting) (finalizer : held.hasFinalizer)
      (talks : Limited (.error (.timeout key.text settings.passTimeout))
        (deleteRemote cluster held).run talk (.ok ())) :
      Work settings now key held
        (.answered (.store (.getCluster held.clusterKey)) (.ok (some cluster)) :: talk)
        held.removeFinalizer (.ok .finished)
  | undeleted {cluster : Cluster} {talk : List Exchange} {error : Error} (ready : cluster.isReady)
      (deleting : held.metadata.isDeleting) (finalizer : held.hasFinalizer)
      (talks : Limited (.error (.timeout key.text settings.passTimeout))
        (deleteRemote cluster held).run talk (.error error)) :
      Work settings now key held
        (.answered (.store (.getCluster held.clusterKey)) (.ok (some cluster)) :: talk)
        held (.error error)
  | converged {cluster : Cluster} {talk : List Exchange} (ready : cluster.isReady)
      (alive : held.metadata.isDeleting = false)
      (talks : Limited (.error (.timeout key.text settings.passTimeout))
        (withConnection cluster (register cluster held.alignFinalizer)).run talk (.ok ())) :
      Work settings now key held
        (.answered (.store (.getCluster held.clusterKey)) (.ok (some cluster)) :: talk)
        (held.alignFinalizer.mapConditions fun conditions =>
          ((readyCondition now).set conditions).1)
        (.ok .success)
  | unconverged {cluster : Cluster} {talk : List Exchange} {error : Error}
      (ready : cluster.isReady) (alive : held.metadata.isDeleting = false)
      (talks : Limited (.error (.timeout key.text settings.passTimeout))
        (withConnection cluster (register cluster held.alignFinalizer)).run talk (.error error)) :
      Work settings now key held
        (.answered (.store (.getCluster held.clusterKey)) (.ok (some cluster)) :: talk)
        held.alignFinalizer (.error error)

end Namespace

namespace Program

variable {calls : List Exchange} {held changed : Namespace}

/-- What there is to do is known once the cluster was read. -/
theorem task_of_trace {late : Error} {result : Except Error Namespace.Task}
    (trace : Trace (limit (.error late) (do
      let cluster ← askStore (.getCluster held.clusterKey)
      held.task cluster : Fallible Namespace.Task).run) calls result) :
    (∃ error, result = .error error ∧ (calls = [.cut (.store (.getCluster held.clusterKey))] ∨
      calls = [.answered (.store (.getCluster held.clusterKey)) (.error error)])) ∨
    ∃ cluster, result = held.task cluster ∧
      calls = [.answered (.store (.getCluster held.clusterKey)) (.ok cluster)] := by
  rcases trace with ⟨_, rfl, rfl, rfl⟩ | ⟨answer, later, rfl, trace⟩
  · exact .inl ⟨late, rfl, .inl rfl⟩
  cases answer with
  | error error =>
      rcases trace with ⟨rfl, rfl⟩
      exact .inl ⟨error, rfl, .inr rfl⟩
  | ok cluster =>
      rcases trace with ⟨rfl, rfl⟩
      exact .inr ⟨cluster, rfl, rfl⟩

theorem work_of_trace {settings : Settings} {now : Instant} {key : ObjectKey}
    {left : Namespace × Except Error Outcome}
    (trace : Trace (namespaceBody settings now key held) calls left) :
    held.Work settings now key calls left.1 left.2 := by
  dsimp only [namespaceBody] at trace
  rcases trace_bind.mp trace with ⟨front, back, task, rfl, first, rest⟩
  rcases task_of_trace first with ⟨error, failed, unread⟩ | ⟨cluster, isTask, isRead⟩
  · subst failed
    rcases trace_pure.mp rest with ⟨rfl, rfl⟩
    rw [List.append_nil]
    rcases unread with rfl | rfl
    · refine .unread error rfl ?_
      rintro cluster ⟨⟩
    · refine .unread error rfl ?_
      rintro cluster ⟨⟩
  · subst isTask isRead
    have due := held.due_task cluster
    generalize held.task cluster = task at due rest
    cases due with
    | release deleting =>
        rcases trace_pure.mp rest with ⟨rfl, rfl⟩
        exact .released deleting
    | missing alive error =>
        rcases trace_pure.mp rest with ⟨rfl, rfl⟩
        exact .missing alive error
    | wait unready =>
        rcases trace_pure.mp rest with ⟨rfl, rfl⟩
        exact .waiting unready
    | leave ready deleting bare =>
        rcases trace_pure.mp rest with ⟨rfl, rfl⟩
        exact .bare ready deleting bare
    | delete ready deleting finalizer =>
        rcases trace_bind.mp rest with ⟨talk, later, result, rfl, deletes, last⟩
        have limited := deletes.limited
        cases result with
        | ok done =>
            rcases trace_pure.mp last with ⟨rfl, rfl⟩
            rw [List.append_nil]
            exact .deleted ready deleting finalizer limited
        | error error =>
            rcases trace_pure.mp last with ⟨rfl, rfl⟩
            rw [List.append_nil]
            exact .undeleted ready deleting finalizer limited
    | converge ready alive =>
        rcases trace_bind.mp rest with ⟨talk, later, result, rfl, registers, last⟩
        have limited := registers.limited
        cases result with
        | ok done =>
            rcases trace_pure.mp last with ⟨rfl, rfl⟩
            rw [List.append_nil]
            exact .converged ready alive limited
        | error error =>
            rcases trace_pure.mp last with ⟨rfl, rfl⟩
            rw [List.append_nil]
            exact .unconverged ready alive limited

end Program

/-! ### What a successful pass has done -/

namespace Namespace

/-- A pass has brought the server of a cluster in line with the spec of a namespace. -/
structure Converged (held : Namespace) (cluster : Cluster) (calls : List Exchange) : Prop where
  found : .answered (.store (.getCluster held.clusterKey)) (.ok (some cluster)) ∈ calls
  ready : cluster.isReady
  connected : .answered (.connect cluster) (.ok ()) ∈ calls
  accepted : ∃ front, Accepts cluster (.of cluster held) front ∧ front ⊆ calls
  attributes : ∃ present plan,
    .answered (.server cluster (.listAttributes held.name)) (.ok present) ∈ calls ∧
      AttributePlan.make held.spec.searchAttributes present = .ok plan ∧
      ∀ request ∈ plan.requests cluster held.name, ∃ answer, .answered request (.ok answer) ∈ calls

theorem Converged.of_subset {held : Namespace} {cluster : Cluster} {calls more : List Exchange}
    (converged : held.Converged cluster calls) (among : calls ⊆ more) :
    held.Converged cluster more := by
  rcases converged with
    ⟨found, ready, connected, ⟨front, accepts, within⟩, present, plan, listed, isPlan, done⟩
  refine ⟨among found, ready, among connected,
    ⟨front, accepts, fun _ there => among (within there)⟩, present, plan, among listed, isPlan,
    fun request asked => ?_⟩
  rcases done request asked with ⟨answer, isDone⟩
  exact ⟨answer, among isDone⟩

end Namespace

namespace Program

variable {cluster : Cluster} {calls : List Exchange}

/-- Where a program succeeds that makes a request if it is wanted, the request was answered. -/
theorem answered_of_optional {β : Type} {value : β} {wanted : Prop} [Decidable wanted]
    {request : Request} {after : Fallible β}
    (trace : Trace (if wanted then ask request >>= fun _ => after else after).run calls
      (.ok value)) :
    ∃ later, Trace after.run later (.ok value) ∧ later ⊆ calls ∧
      ∀ asked ∈ if wanted then [request] else [],
        ∃ answer, .answered asked (.ok answer) ∈ calls := by
  split at trace
  · rw [if_pos ‹wanted›]
    rcases trace_run_bind.mp trace with ⟨_, later, answer, rfl, asked, rest⟩ | ⟨_, _, ⟨⟩⟩
    rw [trace_run_ask.mp asked]
    refine ⟨later, rest, fun _ => List.mem_append_right _, ?_⟩
    intro other there
    rw [List.mem_singleton.mp there]
    exact ⟨answer, by simp⟩
  · rw [if_neg ‹¬wanted›]
    exact ⟨calls, trace, fun _ => id, by simp⟩

/-- Where the attributes were brought to those of the spec, they were listed, there is a plan for
them, and all of the plan was done. -/
theorem planned_of_trace {name : String} {spec : StringMap String} {plan : AttributePlan}
    (trace : Trace (convergeAttributes cluster name spec).run calls (.ok plan)) :
    ∃ present, .answered (.server cluster (.listAttributes name)) (.ok present) ∈ calls ∧
      AttributePlan.make spec present = .ok plan ∧
      ∀ request ∈ plan.requests cluster name, ∃ answer, .answered request (.ok answer) ∈ calls := by
  dsimp only [convergeAttributes] at trace
  rcases trace_run_bind.mp trace with ⟨_, after, present, rfl, listed, plans⟩ | ⟨_, _, ⟨⟩⟩
  rw [trace_run_ask.mp listed]
  rcases trace_run_bind.mp plans with ⟨_, changes, made, rfl, planned, removes⟩ | ⟨_, _, ⟨⟩⟩
  rcases trace_run_result.mp planned with ⟨rfl, isPlan⟩
  rcases answered_of_optional removes with ⟨additions, adds, among, removed⟩
  rcases answered_of_optional adds with ⟨last, ended, _, added⟩
  cases (trace_pure.mp ended).2
  refine ⟨present, by simp, isPlan.symm, ?_⟩
  intro request there
  rcases List.mem_append.mp there with there | there
  · rcases removed request there with ⟨answer, isAnswer⟩
    exact ⟨answer, by simp [isAnswer]⟩
  · rcases added request there with ⟨answer, isAnswer⟩
    exact ⟨answer, by simp [among isAnswer]⟩

end Program

/-- A pass that succeeds has brought the server in line with the spec that it read. -/
theorem Namespace.Work.converged_of_success {settings : Settings} {now : Instant} {key : ObjectKey}
    {held changed : Namespace} {calls : List Exchange}
    (work : held.Work settings now key calls changed (.ok .success)) :
    ∃ cluster, held.Converged cluster calls := by
  rcases held.frame_alignFinalizer with ⟨spec, _, request⟩
  cases work with
  | @converged cluster talk ready alive talks =>
      -- A pass that is late does not succeed, so the deadline did not strike.
      rcases talks with whole | ⟨⟨⟩, _⟩
      rcases trace_withConnection whole with ⟨_, _, ⟨⟩⟩ | ⟨used, closed, registers, rfl⟩
      rcases trace_register registers with ⟨_, _, ⟨⟩, _⟩ | ⟨_, _, _, ⟨⟩, _⟩ |
        ⟨front, later, made, rfl, accepts, goes, isMade⟩
      cases made with
      | error error => cases isMade
      | ok plan =>
          rcases planned_of_trace goes with ⟨present, listed, isPlan, done⟩
          rw [request] at accepts
          rw [spec] at isPlan
          rw [held.name_alignFinalizer] at listed done
          refine ⟨cluster, by simp, ready, by simp,
            ⟨front, accepts, fun _ there => by simp [there]⟩, present, plan, by simp [listed],
            isPlan, fun asked isAsked => ?_⟩
          rcases done asked isAsked with ⟨answer, isDone⟩
          exact ⟨answer, by simp [isDone]⟩

end ClusterOperator
