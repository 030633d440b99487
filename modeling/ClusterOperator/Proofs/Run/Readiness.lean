import ClusterOperator.Proofs.Namespace.Work
import ClusterOperator.Proofs.Run.Recording

/-!
# When a namespace is reported ready

A pass that succeeds has converged the namespace and reports it ready. No other pass says anything
about that, so the report stays as it is when the spec changes and passes fail: a namespace is
reported ready from the first success on that is stored.
-/

namespace ClusterOperator

open Program Condition

namespace Resource

variable {Spec Status : Type} [HasConditions Status] {held other : Resource Spec Status}

/-- Whether an object is reported ready. -/
def ReportsReady (held : Resource Spec Status) : Prop := Condition.isTrue readyType held.conditions

theorem reportsReady_of_status_eq (same : held.status = other.status) :
    held.ReportsReady ↔ other.ReportsReady := by
  rw [ReportsReady, ReportsReady, conditions_of_status_eq same]

/-- Recording what came of a pass is no report of readiness. -/
theorem reportsReady_record [LawfulConditions Status] (now : Instant)
    (outcome : Except Error Outcome) (held : Resource Spec Status) :
    (held.record now outcome).ReportsReady ↔ held.ReportsReady := by
  have noSuccess : successType ≠ readyType := by decide
  have noError : errorType ≠ readyType := by decide
  unfold ReportsReady Condition.isTrue
  rw [conditions_record, find?_recordIn noSuccess noError]

end Resource

section Passes

variable {settings : Settings} {now : Instant} {key : ObjectKey} {calls : List Exchange}
  {outcome : Except Error Outcome} {held changed after : Namespace}

/-- The work of a pass reports the namespace ready if it succeeds, and else leaves the report. -/
theorem Namespace.Work.reportsReady_iff
    (work : held.Work settings now key calls changed outcome) :
    changed.ReportsReady ↔ outcome = .ok .success ∨ held.ReportsReady := by
  by_cases success : outcome = .ok .success
  · subst success
    cases work with
    | converged ready alive talks =>
        refine iff_of_true ?_ (.inl rfl)
        unfold Resource.ReportsReady
        rw [Resource.conditions_mapConditions]
        exact (isTrue_iff_of_said (said_set (readyCondition now) _)).mpr rfl
  · have same : changed.status = held.status := by
      cases work.leftBy with
      | success isReady conditions => exact absurd rfl success
      | other unsuccessful same => exact same
    rw [Resource.reportsReady_of_status_eq same]
    exact (or_iff_right success).symm

/-- What is stored reports the namespace ready if the pass has succeeded, and has then converged the
namespace; or else if it was reported ready already. -/
theorem Subject.Replaces.reportsReady_iff
    (replaces : (Subject.ns key).Replaces settings now calls outcome (.ns held) (.ns after)) :
    .answered (.store (.getNamespace key)) (.ok (some held)) ∈ calls ∧
      (after.ReportsReady ↔ outcome = .ok .success ∨ held.ReportsReady) ∧
      (outcome = .ok .success → ∃ cluster, held.Converged cluster calls) := by
  cases replaces with
  | @ns _ _ changed _ _ body last goes status =>
      have work := work_of_trace goes
      refine ⟨by simp, ?_, ?_⟩
      · rw [Resource.reportsReady_of_status_eq status, Resource.reportsReady_record]
        exact work.reportsReady_iff
      · rintro rfl
        rcases work.converged_of_success with ⟨cluster, converged⟩
        exact ⟨cluster, converged.of_subset fun _ there => by simp [there]⟩

end Passes

/-- A namespace that was registered once, and whose spec names a cluster now that is not there. -/
def Namespace.orphaned : Namespace :=
  { payments with
    spec := { payments.spec with cluster := { name := "gone" } }
    status := some { conditions := [readyCondition default] } }

namespace Situation

variable {key : ObjectKey} {before after start middle finish : Situation} {event : Event}
  {events : List Event} {calls : List Exchange} {outcome : Except Error Outcome}
  {held stored : Namespace}

theorem Stores.reportsReady_iff (stores : Stores (.ns key) calls outcome before event after)
    (step : Step before event after) (reachable : Reachable before)
    (isStored : after.store.namespaces.get? key = some stored) :
    ∃ held, before.store.namespaces.get? key = some held ∧
      .answered (.store (.getNamespace key)) (.ok (some held)) ∈ calls ∧
      (stored.ReportsReady ↔ outcome = .ok .success ∨ held.ReportsReady) ∧
      (outcome = .ok .success → ∃ cluster, held.Converged cluster calls) := by
  rcases stores.replaces step reachable (Store.stored?_ns isStored) with
    ⟨settings, now, earlier, isThere, replaces⟩
  rcases Option.map_eq_some_iff.mp isThere with ⟨held, isHeld, rfl⟩
  exact ⟨held, isHeld, replaces.reportsReady_iff⟩

/-- In a run in which nobody else edits the status of a namespace, a pass stores its success. -/
inductive Succeeds (key : ObjectKey) (start : Situation) : List Event → Situation → Prop
  | now {events : List Event} {before after : Situation} {event : Event} {calls : List Exchange}
      (run : Run (Unedited (.ns key)) start events before) (step : Step before event after)
      (stores : Stores (.ns key) calls (.ok .success) before event after) :
      Succeeds key start (events ++ [event]) after
  | later {events : List Event} {before after : Situation} {event : Event}
      (succeeds : Succeeds key start events before) (step : Step before event after)
      (unedited : Unedited (.ns key) before event after) :
      Succeeds key start (events ++ [event]) after

/-- In a step in which nobody else edits the status, a namespace is reported ready afterwards if it
was before, or a pass stores its success. -/
theorem Step.reportsReady_iff (step : Step before event after) (reachable : Reachable before)
    (unedited : Unedited (.ns key) before event after)
    (isStored : after.store.namespaces.get? key = some stored) :
    ∃ held, before.store.namespaces.get? key = some held ∧
      (stored.ReportsReady ↔
        (∃ calls, Stores (.ns key) calls (.ok .success) before event after) ∨
          held.ReportsReady) := by
  have success : (∃ calls, Stores (.ns key) calls (.ok .success) before event after) →
      stored.ReportsReady := by
    rintro ⟨calls, stores⟩
    rcases stores.reportsReady_iff step reachable isStored with ⟨_, _, _, ready, _⟩
    exact ready.mpr (.inl rfl)
  rcases step.entry reachable unedited (Store.stored?_ns isStored) with
    ⟨earlier, isThere, same | ⟨outcome, calls, recorded, stores⟩⟩
  · rcases Option.map_eq_some_iff.mp isThere with ⟨held, isHeld, rfl⟩
    have same := Resource.reportsReady_of_status_eq (Sum.inr.inj same)
    refine ⟨held, isHeld, fun ready => .inr (same.mp ready), ?_⟩
    rintro (stores | ready)
    · exact success stores
    · exact same.mpr ready
  · rcases stores.reportsReady_iff step reachable isStored with ⟨held, isHeld, _, ready, _⟩
    refine ⟨held, isHeld, fun reports => ?_, ?_⟩
    · rcases ready.mp reports with rfl | before
      · exact .inl ⟨calls, stores⟩
      · exact .inr before
    · rintro (stores | before)
      · exact success stores
      · exact ready.mpr (.inr before)

theorem Succeeds.run (succeeds : Succeeds key start events finish) :
    Run (Unedited (.ns key)) start events finish := by
  induction succeeds with
  | now run step stores => exact run.step step stores.unedited
  | later succeeds step unedited ih => exact ih.step step unedited

theorem Succeeds.reportsReady (succeeds : Succeeds key start events finish)
    (reachable : Reachable start) (isStored : finish.store.namespaces.get? key = some stored) :
    stored.ReportsReady := by
  induction succeeds generalizing stored with
  | now run step stores =>
      rcases stores.reportsReady_iff step (run.reachable reachable) isStored with
        ⟨_, _, _, ready, _⟩
      exact ready.mpr (.inl rfl)
  | later succeeds step unedited ih =>
      rcases step.reportsReady_iff (succeeds.run.reachable reachable) unedited isStored with
        ⟨held, isHeld, ready⟩
      exact ready.mpr (.inr (ih isHeld))

theorem Run.reportsReady_iff (run : Run (Unedited (.ns key)) start events finish)
    (reachable : Reachable start) (isStored : finish.store.namespaces.get? key = some stored) :
    ∃ first, start.store.namespaces.get? key = some first ∧
      (stored.ReportsReady ↔ Succeeds key start events finish ∨ first.ReportsReady) := by
  induction run generalizing stored with
  | refl =>
      refine ⟨stored, isStored, .inr, ?_⟩
      rintro (succeeds | ready)
      · exact succeeds.reportsReady reachable isStored
      · exact ready
  | step run step unedited ih =>
      rcases step.reportsReady_iff (run.reachable reachable) unedited isStored with
        ⟨held, isHeld, now⟩
      rcases ih isHeld with ⟨first, isFirst, before⟩
      refine ⟨first, isFirst, fun ready => ?_, ?_⟩
      · rcases now.mp ready with ⟨calls, stores⟩ | ready
        · exact .inl (.now run step stores)
        · exact (before.mp ready).imp (.later · step unedited) id
      · rintro (succeeds | ready)
        · exact succeeds.reportsReady reachable isStored
        · exact now.mpr (.inr (before.mpr (.inr ready)))

theorem stores_of_orphaned :
    let key := Namespace.orphaned.key
    let missing := Error.missingCluster key.text Namespace.orphaned.clusterKey.text
    let before := (ofObjects .prod .orphaned).advances .obliging 0 3
    let after := (ofObjects .prod .orphaned).advances .obliging 0 4
    ∃ event calls, Step before event after ∧
      Stores (.ns key) calls (.error missing) before event after := by
  intro key missing before after
  obtain ⟨course, there, about, closes⟩ : ∃ course, after.courses[0]? = some course ∧
      course.subject = .ns key ∧
      Subject.Closes {} default (.ns key) course.history.reverse (.error missing)
        (some (.ok ())) := by
    refine ⟨_, rfl, rfl, ?_⟩
    let replies := Servers.obliging.replies (ofObjects .prod .orphaned).store
    exact .ns (trace_follow replies (namespaceBody {} default key _)) (.wrote rfl _)
  exact ⟨_, _, step_advance .obliging rfl rfl, .patch there about rfl rfl ⟨(), rfl⟩ rfl closes⟩

/-- What a pass stores reports the namespace ready exactly if the pass succeeded, having found the
cluster and converged the spec that it read, or if the namespace was reported ready when the pass
read it: one that fails leaves the report as it is. So where nobody else edits the status, what is
stored after a run reports the namespace ready exactly if some pass has stored its success in the
run, or if it was reported ready before. -/
theorem reportsReady_since_success (reachable : Reachable start)
    (run : Run (Unedited (.ns key)) start events before) (step : Step before event after)
    (stores : Stores (.ns key) calls outcome before event after)
    (isStored : after.store.namespaces.get? key = some stored) :
    (∃ held, before.store.namespaces.get? key = some held ∧
      .answered (.store (.getNamespace key)) (.ok (some held)) ∈ calls ∧
      (stored.ReportsReady ↔ outcome = .ok .success ∨ held.ReportsReady) ∧
      (outcome = .ok .success → ∃ cluster, held.Converged cluster calls)) ∧
    ∃ first, start.store.namespaces.get? key = some first ∧
      (stored.ReportsReady ↔
        Succeeds key start (events ++ [event]) after ∨ first.ReportsReady) := by
  constructor
  · exact stores.reportsReady_iff step (run.reachable reachable) isStored
  · exact (run.step step stores.unedited).reportsReady_iff reachable isStored

/-- What the pass over the orphaned namespace stores tells of its failure and reports the namespace
ready as before. The other namespace is reported ready once the pass over it has succeeded. -/
theorem reportsReady_of_orphaned :
    let missing := Error.missingCluster Namespace.orphaned.key.text
      Namespace.orphaned.clusterKey.text
    let failed := (ofObjects .prod .orphaned).advances .obliging 0 4
    let done := (ofObjects .prod .payments).advances .obliging 0 8
    (∃ stored, failed.store.namespaces.get? Namespace.orphaned.key = some stored ∧
      Tell stored.conditions (.error missing) ∧ stored.ReportsReady) ∧
    ∃ events stored, Succeeds Namespace.payments.key (ofObjects .prod .payments) events done ∧
      done.store.namespaces.get? Namespace.payments.key = some stored ∧ stored.ReportsReady := by
  intro missing failed done
  constructor
  · let before := (ofObjects .prod .orphaned).advances .obliging 0 3
    have reachable : Reachable before :=
      (reachable_ofObjects .prod .orphaned).advances .obliging 0 3
    obtain ⟨stored, isStored⟩ : ∃ stored,
        failed.store.namespaces.get? Namespace.orphaned.key = some stored := ⟨_, rfl⟩
    obtain ⟨known, isKnown, reported⟩ : ∃ known,
        before.store.namespaces.get? Namespace.orphaned.key = some known ∧ known.ReportsReady :=
      ⟨_, rfl, rfl⟩
    rcases stores_of_orphaned with ⟨event, calls, patches, stores⟩
    rcases stores.replaces patches reachable (Store.stored?_ns isStored) with ⟨_, _, _, _, replaces⟩
    rcases (reportsReady_since_success reachable .refl patches stores isStored).1 with
      ⟨held, isHeld, _, ready, _⟩
    cases isKnown.symm.trans isHeld
    exact ⟨stored, isStored, replaces.enters.tells rfl, ready.mpr (.inr reported)⟩
  · obtain ⟨events, prepares⟩ : ∃ events,
        Run (Unedited (.ns Namespace.payments.key)) (ofObjects .prod .payments) events
          ((ofObjects .prod .payments).advances .obliging 0 7) :=
      exists_run_advances fun _ _ _ _ => by rintro ⟨⟩
    obtain ⟨stored, isStored⟩ : ∃ stored,
        done.store.namespaces.get? Namespace.payments.key = some stored := ⟨_, rfl⟩
    rcases stores_of_payments with ⟨event, calls, patches, stores⟩
    have succeeds := Succeeds.now prepares patches stores
    rcases (reportsReady_since_success (reachable_ofObjects .prod .payments) prepares patches stores
      isStored).2 with ⟨first, _, ready⟩
    exact ⟨_, stored, succeeds, isStored, ready.mpr (.inl succeeds)⟩

end Situation

end ClusterOperator
