import ClusterOperator.Proofs.Cluster.Work
import ClusterOperator.Proofs.Condition.Ledger
import ClusterOperator.Proofs.Run.Traced
import ClusterOperator.Proofs.Run.Writes

/-!
# What a pass enters into the status of its object

The body of a pass reports whether the object is ready, if it succeeds, and otherwise leaves the
status alone. The outcome is recorded on top of that. So the patch of a pass leaves a status that
tells the outcome, or is the old one where the outcome is not recorded.
-/

namespace ClusterOperator

open Program Condition

namespace Resource

variable {Spec Status : Type} {held changed after : Resource Spec Status}
  {outcome : Except Error Outcome} {now : Instant}

/-- A patch for the difference to another object gives the status of that. -/
theorem status_withPatch_between [DecidableEq Status]
    (kept : after.status = none → held.status = none) (store : Store) :
    (held.withPatch (.between held after) store).status = after.status := by
  dsimp only [withPatch, ObjectPatch.between]
  split
  · rename_i same
    exact same.symm
  · cases reported : after.status with
    | none => exact kept reported
    | some status => rfl

variable [HasConditions Status]

/-- What the body of a pass leaves of the status of its object. -/
inductive LeftBy (held changed : Resource Spec Status) : Except Error Outcome → Prop
  | success {ready : Condition} (isReady : ready.type = readyType)
      (conditions : changed.conditions = (Condition.set ready held.conditions).1) :
      LeftBy held changed (.ok .success)
  | other {outcome : Except Error Outcome} (unsuccessful : outcome ≠ .ok .success)
      (same : changed.status = held.status) : LeftBy held changed outcome

theorem LeftBy.status_eq (left : held.LeftBy changed outcome)
    (unrecorded : IsRecorded outcome = false) (now : Instant) :
    (changed.record now outcome).status = held.status := by
  rw [record_of_not_isRecorded unrecorded]
  cases left with
  | success isReady conditions => cases unrecorded
  | other unsuccessful same => exact same

/-- What a pass writes of the status takes no status away. -/
theorem LeftBy.kept (left : held.LeftBy changed outcome) (now : Instant)
    (gone : (changed.record now outcome).status = none) : held.status = none := by
  cases recorded : IsRecorded outcome with
  | false => exact (left.status_eq recorded now).symm.trans gone
  | true => exact absurd gone (status_record_ne_none recorded now changed)

variable [LawfulConditions Status]

theorem tell_record (recorded : IsRecorded outcome) (now : Instant)
    (changed : Resource Spec Status) : Tell (changed.record now outcome).conditions outcome := by
  rw [conditions_record]
  exact tell_recordIn recorded now _

theorem LeftBy.distinct (left : held.LeftBy changed outcome) (now : Instant)
    (distinct : Distinct held.conditions) :
    Distinct (changed.record now outcome).conditions := by
  rw [conditions_record]
  apply Distinct.recordIn
  cases left with
  | success isReady conditions =>
      rw [conditions]
      exact distinct.set _
  | other unsuccessful same =>
      rw [conditions_of_status_eq same]
      exact distinct

/-- What a status says that is as a pass has left it, with what came of the pass. -/
theorem LeftBy.written (left : held.LeftBy changed outcome)
    (status : after.status = (changed.record now outcome).status) :
    (IsRecorded outcome = false → after.status = held.status) ∧
      (IsRecorded outcome → Tell after.conditions outcome) ∧
      (Distinct held.conditions → Distinct after.conditions) := by
  rw [status, conditions_of_status_eq status]
  exact ⟨fun unrecorded => left.status_eq unrecorded now,
    fun recorded => tell_record recorded now changed, left.distinct now⟩

/-- Where a pass that has something to record has nothing to write, it is told already. -/
theorem tell_of_isEmpty [DecidableEq Status] (recorded : IsRecorded outcome)
    (empty : (ObjectPatch.between held (changed.record now outcome)).isEmpty) :
    Tell held.conditions outcome := by
  have told := tell_record recorded now changed
  have reported := status_record_ne_none recorded now changed
  simp only [ObjectPatch.isEmpty, ObjectPatch.between, Bool.and_eq_true, Option.isNone_iff_eq_none]
    at empty
  rcases empty with ⟨_, unchanged⟩
  split at unchanged
  · rename_i same
    rwa [conditions_of_status_eq same] at told
  · exact absurd unchanged reported

end Resource

/-! ### What bodies leave -/

section Bodies

variable {settings : Settings} {now : Instant} {key : ObjectKey} {calls : List Exchange}
  {outcome : Except Error Outcome}

theorem Namespace.Work.leftBy {held changed : Namespace}
    (work : held.Work settings now key calls changed outcome) : held.LeftBy changed outcome := by
  have aligned := held.frame_alignFinalizer.2.1
  cases work with
  | unread error reads unread => exact .other (by simp) rfl
  | missing alive error => exact .other (by simp) rfl
  | released deleting => exact .other (by simp) rfl
  | waiting unready => exact .other (by simp) rfl
  | bare ready deleting bare => exact .other (by simp) rfl
  | deleted ready deleting finalizer talks => exact .other (by simp) rfl
  | undeleted ready deleting finalizer talks => exact .other (by simp) rfl
  | converged ready alive talks =>
      have isReady : (Namespace.readyCondition now).type = readyType := rfl
      refine .success isReady ?_
      rw [Resource.conditions_mapConditions, Resource.conditions_of_status_eq aligned]
  | unconverged ready alive talks => exact .other (by simp) aligned

theorem Cluster.Work.leftBy {held changed : Cluster}
    (work : held.Work settings now key calls changed outcome) : held.LeftBy changed outcome := by
  cases work with
  | converged complete valid tends =>
      refine .success ?_ rfl
      dsimp only [Cluster.readyCondition]
      split <;> rfl
  | _ => exact .other (by simp) rfl

theorem leftBy_of_clusterBody {held changed : Cluster}
    (trace : Trace (clusterBody settings now key held) calls (changed, outcome)) :
    held.LeftBy changed outcome :=
  (clusterWork_of_trace trace).leftBy

end Bodies

/-! ### Steps -/

namespace CustomResource

def status : CustomResource → Option ClusterStatus ⊕ Option NamespaceStatus
  | cluster held => .inl held.status
  | ns held => .inr held.status

def conditions : CustomResource → List Condition
  | cluster held => held.conditions
  | ns held => held.conditions

theorem conditions_of_status_eq {held other : CustomResource} (same : held.status = other.status) :
    held.conditions = other.conditions := by
  cases held with
  | cluster held =>
      cases other with
      | cluster other => exact Resource.conditions_of_status_eq (Sum.inl.inj same)
      | ns other => cases same
  | ns held =>
      cases other with
      | cluster other => cases same
      | ns other => exact Resource.conditions_of_status_eq (Sum.inr.inj same)

/-- What becomes of a resource by the patch of a pass that came to an outcome. -/
structure Enters (held after : CustomResource) (outcome : Except Error Outcome) : Prop where
  unrecorded : IsRecorded outcome = false → after.status = held.status
  tells : IsRecorded outcome → Tell after.conditions outcome
  distinct : Distinct held.conditions → Distinct after.conditions

end CustomResource

/-- What a pass has stored in the place of the resource that it read: the status is as the body left
it, with what came of the pass. -/
inductive Subject.Replaces (settings : Settings) (now : Instant) :
    Subject → List Exchange → Except Error Outcome → CustomResource → CustomResource → Prop
  | cluster {key : ObjectKey} {held changed after : Cluster} {outcome : Except Error Outcome}
      {body last : List Exchange}
      (goes : Trace (clusterBody settings now key held) body (changed, outcome))
      (status : after.status = (changed.record now outcome).status) :
      Replaces settings now (.cluster key)
        (.answered (.store (.getCluster key)) (.ok (some held)) :: (body ++ last)) outcome
        (.cluster held) (.cluster after)
  | ns {key : ObjectKey} {held changed after : Namespace} {outcome : Except Error Outcome}
      {body last : List Exchange}
      (goes : Trace (namespaceBody settings now key held) body (changed, outcome))
      (status : after.status = (changed.record now outcome).status) :
      Replaces settings now (.ns key)
        (.answered (.store (.getNamespace key)) (.ok (some held)) :: (body ++ last)) outcome
        (.ns held) (.ns after)

theorem Subject.Replaces.enters {settings : Settings} {now : Instant} {subject : Subject}
    {calls : List Exchange} {outcome : Except Error Outcome} {held after : CustomResource}
    (replaces : subject.Replaces settings now calls outcome held after) :
    held.Enters after outcome := by
  cases replaces with
  | cluster goes status =>
      rcases (leftBy_of_clusterBody goes).written status with ⟨kept, tells, distinct⟩
      exact ⟨fun unrecorded => congrArg Sum.inl (kept unrecorded), tells, distinct⟩
  | ns goes status =>
      rcases (work_of_trace goes).leftBy.written status with ⟨kept, tells, distinct⟩
      exact ⟨fun unrecorded => congrArg Sum.inr (kept unrecorded), tells, distinct⟩

section Amendments

variable {settings : Settings} {now : Instant} {course later : Course} {turn : Turn}
  {store laterStore : Store} {request : StoreRequest} {held after : CustomResource}
  {outcome : Except Error Outcome} {answer : Except Error Unit}

theorem Course.Amends.status_eq (amends : course.Amends turn store laterStore held request)
    (other : (Request.store request).isPatch = false)
    (stored : course.subject.stored? laterStore = some after) : after.status = held.status := by
  rcases amends with ⟨_, _, overwrites, _, there, _, rfl⟩
  generalize course.subject = subject at overwrites there stored
  generalize bound : held.metadata.resourceVersion = version at overwrites
  cases overwrites with
  | replaceCluster replacement =>
      rcases Option.map_eq_some_iff.mp there with ⟨cluster, isThere, rfl⟩
      have replaced := Store.replaceCluster_of_current isThere bound.symm
      dsimp only [Store.answer, Subject.stored?] at stored
      rw [replaced, SortedMap.get?_insert_self] at stored
      cases stored
      rfl
  | patchCluster key patch => cases other
  | patchNamespace key patch => cases other

/-- A pass that writes its own resource at its end replaces it by what its body has left. -/
theorem Course.Amends.replaces (amends : course.Amends turn store laterStore held request)
    (takes : course.Takes store turn later laterStore)
    (follows : course.history.Follows course.subject.Asks)
    (closes : course.subject.Closes settings now later.history.reverse outcome (some answer))
    (stored : course.subject.stored? laterStore = some after) :
    course.subject.Replaces settings now later.history.reverse outcome held after := by
  rcases amends with ⟨asked, _, _, ⟨exchange, read, reads⟩, there, _, rfl⟩
  rcases takes.asked asked with ⟨last, isLast, history⟩
  rw [history, List.reverse_cons] at closes ⊢
  generalize course.subject = subject at follows closes stored reads there ⊢
  generalize whole : course.history.reverse ++ [last] = calls at closes ⊢
  cases closes with
  | @cluster key known changed outcome _ body _ alive goes closing =>
      -- The patch is the last request of the pass, and so the one that this step makes.
      cases closing
      rw [← List.cons_append] at whole
      rcases List.append_inj' whole rfl with ⟨front, ⟨⟩⟩
      cases isLast
      have also : _ ∈ course.history := List.mem_reverse.mp (front ▸ List.mem_cons_self ..)
      cases follows.reads_unique read reads also (.cluster key known)
      rcases Option.map_eq_some_iff.mp there with ⟨_, isThere, ⟨⟩⟩
      have bound : (ObjectPatch.between known (changed.record now outcome)).resourceVersion =
          known.metadata.resourceVersion := rfl
      have written := (Store.patchCluster_of_current isThere bound).2.2
      rcases Option.map_eq_some_iff.mp stored with ⟨patched, isStored, rfl⟩
      cases written.symm.trans isStored
      refine .cluster goes ?_
      exact Resource.status_withPatch_between ((leftBy_of_clusterBody goes).kept now) store.advance
  | @ns key known changed outcome _ body _ goes closing =>
      cases closing
      rw [← List.cons_append] at whole
      rcases List.append_inj' whole rfl with ⟨front, ⟨⟩⟩
      cases isLast
      have also : _ ∈ course.history := List.mem_reverse.mp (front ▸ List.mem_cons_self ..)
      cases follows.reads_unique read reads also (.ns key known)
      rcases Option.map_eq_some_iff.mp there with ⟨_, isThere, ⟨⟩⟩
      have bound : (ObjectPatch.between known (changed.record now outcome)).resourceVersion =
          known.metadata.resourceVersion := rfl
      have written := (Store.patchNamespace_of_current isThere bound).2
      rcases Option.map_eq_some_iff.mp stored with ⟨patched, isStored, rfl⟩
      have isPatched := written.symm.trans isStored
      unfold Namespace.patched at isPatched
      split at isPatched
      · cases isPatched
      cases isPatched
      refine .ns goes ?_
      exact Resource.status_withPatch_between ((work_of_trace goes).leftBy.kept now) store.advance

end Amendments

theorem Subject.Closes.exists_overwrites {settings : Settings} {now : Instant} {subject : Subject}
    {front : List Exchange} {last : Exchange} {outcome : Except Error Outcome}
    {answer : Except Error Unit}
    (closes : subject.Closes settings now (front ++ [last]) outcome (some answer)) :
    ∃ request version, last.request = .store request ∧ request.Overwrites subject version := by
  generalize whole : front ++ [last] = calls at closes
  cases closes with
  | @cluster key known changed outcome _ body _ alive goes closing =>
      cases closing
      rw [← List.cons_append] at whole
      cases (List.append_inj' whole rfl).2
      exact ⟨_, _, rfl, .patchCluster key _⟩
  | @ns key known changed outcome _ body _ goes closing =>
      cases closing
      rw [← List.cons_append] at whole
      cases (List.append_inj' whole rfl).2
      exact ⟨_, _, rfl, .patchNamespace key _⟩

/-- What came of a pass is known from what it has asked. -/
theorem Subject.Closes.outcome_eq {settings : Settings} {now : Instant} {subject : Subject}
    {calls more : List Exchange} {outcome also : Except Error Outcome}
    {written result : Option (Except Error Unit)}
    (closes : subject.Closes settings now calls outcome written)
    (again : subject.Closes settings now (calls ++ more) also result) : outcome = also := by
  cases closes with
  | @cluster key held changed outcome written body last alive goes closing =>
      generalize isIt : Exchange.answered _ _ :: (body ++ last) ++ more = calls at again
      cases again with
      | cluster stillAlive alsoGoes closes =>
          rw [List.cons_append, List.append_assoc, List.cons.injEq] at isIt
          rcases isIt with ⟨⟨⟩, same⟩
          cases (goes.unique alsoGoes same).2.2
          rfl
  | @ns key held changed outcome written body last goes closing =>
      generalize isIt : Exchange.answered _ _ :: (body ++ last) ++ more = calls at again
      cases again with
      | ns alsoGoes closes =>
          rw [List.cons_append, List.append_assoc, List.cons.injEq] at isIt
          rcases isIt with ⟨⟨⟩, same⟩
          cases (goes.unique alsoGoes same).2.2
          rfl

end ClusterOperator
