import ClusterOperator.Proofs.Run.Entry
import ClusterOperator.Proofs.Run.Ownership

/-!
# What a cluster must be like before its children are touched

A pass goes on to the children only where it has read a cluster that is not being deleted and whose
spec is complete and valid. It writes back an open spec and ends. Of an invalid one it tells the
error and nothing else: whatever happens meanwhile, no step of such a pass changes a child, a
namespace, or what a stored cluster says about itself.
-/

namespace ClusterOperator

open Program Condition

/-- A cluster whose children a pass may touch. -/
structure Cluster.Admitted (cluster : Cluster) : Prop where
  alive : cluster.metadata.isDeleting = false
  complete : cluster.spec.withDefaults = cluster.spec
  valid : cluster.spec.validate cluster.key.text = .ok ()

theorem ClusterSpec.exists_of_validate {spec : ClusterSpec} {object : String} {error : Error}
    (invalid : spec.validate object = .error error) :
    ∃ problem, spec.problem? = some problem ∧ error = .validation object problem.text := by
  unfold validate at invalid
  split at invalid
  · cases invalid
  · cases invalid
    exact ⟨_, ‹_›, rfl⟩

/-! ### What is written of an error -/

/-- The patch tells an error and nothing else: it is bound to the version that was read, and leaves
the finalizers and all of the status that is not about the last pass. -/
structure ObjectPatch.Reports (patch : ObjectPatch ClusterStatus) (held : Cluster) (error : Error)
    (status : ClusterStatus) : Prop where
  version : patch.resourceVersion = held.metadata.resourceVersion
  finalizers : patch.finalizers = none
  isStatus : patch.status = some status
  tells : Tell status.conditions (.error error)
  ready : find? readyType status.conditions = find? readyType held.conditions
  services : status.services = held.statusOrInitial.services
  deployed : status.version = held.statusOrInitial.version

/-- An error is told in one patch, or is told already and there is none. -/
inductive Cluster.Reported (key : ObjectKey) (held : Cluster) (error : Error) :
    List Exchange → Prop
  | already (told : Tell held.conditions (.error error)) : Reported key held error []
  | patched {patch : ObjectPatch ClusterStatus} {status : ClusterStatus}
      (reports : patch.Reports held error status) (answer : Except Error Unit) :
      Reported key held error [.answered (.store (.patchCluster key patch)) answer]

/-- The calls after an open spec was read: the spec is written back, and only where that failed or
was too late an error is told. -/
inductive Cluster.WritesBack (settings : Settings) (key : ObjectKey) (held : Cluster) :
    List Exchange → Prop
  | stored (answer : Cluster) :
      WritesBack settings key held
        [.answered (.store (.replaceCluster { held with spec := held.spec.withDefaults }))
          (.ok answer)]
  | refused {error : Error} {last : List Exchange} (reported : held.Reported key error last) :
      WritesBack settings key held
        (.answered (.store (.replaceCluster { held with spec := held.spec.withDefaults }))
          (.error error) :: last)
  | late {last : List Exchange}
      (reported : held.Reported key (.timeout key.text settings.passTimeout) last) :
      WritesBack settings key held
        (.cut (.store (.replaceCluster { held with spec := held.spec.withDefaults })) :: last)

namespace Cluster

variable {settings : Settings} {now : Instant} {key : ObjectKey} {held changed : Cluster}
  {calls : List Exchange} {error : Error} {written : Option (Except Error Unit)}

/-- Where an error is to be written of a cluster of which nothing but the spec has changed, only the
error is told. -/
theorem exists_reports (metadata : changed.metadata = held.metadata)
    (status : changed.status = held.status)
    (something : (ObjectPatch.between held (changed.record now (.error error))).isEmpty = false) :
    ∃ status, (ObjectPatch.between held (changed.record now (.error error))).Reports held error
      status := by
  let after := changed.record now (.error error)
  let told : ClusterStatus :=
    { held.statusOrInitial with conditions := recordIn now (.error error) held.conditions }
  have reported : after.status = some told := by
    change some (HasConditions.withConditions changed.statusOrInitial
      (recordIn now (.error error) (HasConditions.conditions changed.statusOrInitial))) = some told
    rw [Resource.statusOrInitial, status]
    rfl
  have finalizers : (ObjectPatch.between held after).finalizers = none :=
    if_pos (congrArg Metadata.finalizerList metadata)
  have isStatus : (ObjectPatch.between held after).status = some told := by
    rw [← reported]
    refine if_neg fun same => ?_
    have nothing : (ObjectPatch.between held after).status = none := if_pos same
    rw [ObjectPatch.isEmpty, finalizers, nothing] at something
    cases something
  have tells : Tell told.conditions (.error error) := tell_markError error now held.conditions
  have ready : find? readyType told.conditions = find? readyType held.conditions :=
    find?_recordIn (by decide) (by decide) now (.error error) held.conditions
  exact ⟨told, rfl, finalizers, isStatus, tells, ready, rfl, rfl⟩

/-- The write at the end of a pass that has changed nothing but the spec, and has failed. -/
theorem reported_of_closing (metadata : changed.metadata = held.metadata)
    (status : changed.status = held.status)
    (closing : Closing (ObjectPatch.between held (changed.record now (.error error))).isEmpty
      (fun answer =>
        .answered
          (.store (.patchCluster key (.between held (changed.record now (.error error))))) answer)
      calls written) :
    held.Reported key error calls := by
  cases closing with
  | idle nothing => exact .already (Resource.tell_of_isEmpty rfl nothing)
  | wrote something answer =>
      rcases exists_reports metadata status something with ⟨status, reports⟩
      exact .patched reports answer

end Cluster

/-! ### Ways through a pass -/

section Ways

variable {settings : Settings} {now : Instant} {key : ObjectKey} {held : Cluster}
  {calls rest : List Exchange} {result : Except Error Action} {error : Error}

theorem admitted_of_childKey? (trace : Trace (reconcileCluster settings now key).run calls result)
    {exchange : Exchange} (asked : exchange ∈ calls) (child : exchange.request.childKey?.isSome) :
    ∃ held rest, calls = .answered (.store (.getCluster key)) (.ok (some held)) :: rest ∧
      held.Admitted := by
  have notRead {answer : Except Error (Option Cluster)}
      (isRead : exchange = .answered (.store (.getCluster key)) answer) : False := by
    rw [isRead] at child
    cases child
  rcases clusterEnds_of_trace trace with ⟨error, rfl, _⟩ | ⟨spared, _⟩ |
    ⟨outcome, written, closes, _⟩
  · exact (notRead (List.mem_singleton.mp asked)).elim
  · cases spared with
    | noCluster => exact (notRead (List.mem_singleton.mp asked)).elim
    | deletedCluster deleting => exact (notRead (List.mem_singleton.mp asked)).elim
  · cases closes with
    | @cluster _ held changed _ _ body last alive goes closing =>
        rcases List.mem_cons.mp asked with isRead | asked
        · exact (notRead isRead).elim
        rcases List.mem_append.mp asked with asked | asked
        · rcases (clusterWork_of_trace goes).complete_valid_of_childKey? asked child with
            ⟨complete, valid⟩
          exact ⟨held, body ++ last, rfl, alive, complete, valid⟩
        · cases closing with
          | idle nothing => cases asked
          | wrote something answer =>
              rw [List.mem_singleton.mp asked] at child
              cases child

/-- What follows on reading a cluster that is not being deleted. -/
theorem work_of_read
    (trace : Trace (reconcileCluster settings now key).run
      (.answered (.store (.getCluster key)) (.ok (some held)) :: rest) result)
    (alive : held.metadata.isDeleting = false) :
    ∃ changed outcome written body last, rest = body ++ last ∧
      held.Work settings now key body changed outcome ∧
      Closing (ObjectPatch.between held (changed.record now outcome)).isEmpty
        (fun answer =>
          .answered
            (.store (.patchCluster key (.between held (changed.record now outcome)))) answer)
        last written ∧
      result = conclusion (settle outcome (written.getD (.ok ()))) := by
  rcases clusterEnds_of_trace trace with ⟨error, unread, _⟩ | ⟨spared, _⟩ |
    ⟨outcome, written, closes, ends⟩
  · cases unread
  · cases spared with
    | deletedCluster deleting => cases alive.symm.trans deleting
  · cases closes with
    | cluster alive goes closing =>
        exact ⟨_, _, _, _, _, rfl, clusterWork_of_trace goes, closing, ends⟩

/-- A pass that reads an open spec writes it back, and tells an error where that goes wrong. -/
theorem writesBack_of_read
    (trace : Trace (reconcileCluster settings now key).run
      (.answered (.store (.getCluster key)) (.ok (some held)) :: rest) result)
    (alive : held.metadata.isDeleting = false) (opened : held.spec.withDefaults ≠ held.spec) :
    held.WritesBack settings key rest := by
  rcases work_of_read trace alive with
    ⟨changed, outcome, written, body, last, rfl, work, closing, _⟩
  cases work with
  | invalid complete invalid => exact absurd complete opened
  | converged complete valid tends => exact absurd complete opened
  | unconverged complete valid tends => exact absurd complete opened
  | filled opened answer =>
      cases closing with
      | idle nothing => exact .stored answer
      | wrote something reply =>
          have nothing : (ObjectPatch.between held
              { held with spec := held.spec.withDefaults }).isEmpty := by
            simp [ObjectPatch.isEmpty, ObjectPatch.between]
          cases something.symm.trans nothing
  | refused opened error => exact .refused (Cluster.reported_of_closing rfl rfl closing)
  | late opened => exact .late (Cluster.reported_of_closing rfl rfl closing)

/-- A pass that reads an invalid spec tells so, and waits for another one. -/
theorem reported_of_read
    (trace : Trace (reconcileCluster settings now key).run
      (.answered (.store (.getCluster key)) (.ok (some held)) :: rest) result)
    (alive : held.metadata.isDeleting = false) (complete : held.spec.withDefaults = held.spec)
    (invalid : held.spec.validate held.key.text = .error error) :
    held.Reported key error rest ∧ result = conclusion (.error error) := by
  rcases work_of_read trace alive with
    ⟨changed, outcome, written, body, last, rfl, work, closing, ends⟩
  cases work with
  | invalid _ isInvalid =>
      cases invalid.symm.trans isInvalid
      exact ⟨Cluster.reported_of_closing rfl rfl closing, ends⟩
  | converged _ valid tends => cases invalid.symm.trans valid
  | unconverged _ valid tends => cases invalid.symm.trans valid
  | filled opened answer => exact absurd complete opened
  | refused opened error => exact absurd complete opened
  | late opened => exact absurd complete opened

end Ways

/-! ### Passes in runs -/

namespace Cluster

variable {key : ObjectKey} {held : Cluster} {error : Error} {patch : ObjectPatch ClusterStatus}
  {status : ClusterStatus}

/-- What a cluster says about itself but for the last pass: its spec, whether it is ready, and its
services. -/
def standing (cluster : Cluster) : ClusterSpec × Option Condition × List RoleStatus :=
  (cluster.spec, find? readyType cluster.conditions, cluster.statusOrInitial.services)

theorem standing_withPatch (reports : patch.Reports held error status) (store : Store) :
    Cluster.standing (held.withPatch patch store) = held.standing := by
  have told : (held.withPatch patch store).status = some status := by
    rw [Resource.withPatch, reports.isStatus]
    rfl
  have whole : (held.withPatch patch store).statusOrInitial = status := by
    rw [Resource.statusOrInitial, told]
    rfl
  have spec : (held.withPatch patch store).spec = held.spec := rfl
  unfold standing Resource.conditions
  rw [whole, spec]
  exact congrArg (Prod.mk _) (congrArg₂ Prod.mk reports.ready reports.services)

theorem Reported.patch_of_mem {rest : List Exchange} (reported : held.Reported key error rest)
    {exchange : Exchange} (asked : exchange ∈ rest) :
    ∃ patch status, exchange.request = .store (.patchCluster key patch) ∧
      patch.Reports held error status := by
  cases reported with
  | already told => cases asked
  | patched reports answer =>
      rw [List.mem_singleton.mp asked]
      exact ⟨_, _, rfl, reports⟩

end Cluster

namespace Situation

variable {before after : Situation} {course later : Course} {turn : Turn} {laterStore : Store}
  {key : ObjectKey} {held : Cluster} {error : Error} {request : Request}

/-- All that a pass asks for after it has read an invalid spec is the patch that tells so. -/
theorem Reachable.patch_of_invalid (reachable : Reachable before)
    (there : course ∈ before.courses) (takes : course.Takes before.store turn later laterStore)
    (subject : course.subject = .cluster key) (read : course.history.ReadCluster key held)
    (alive : held.metadata.isDeleting = false) (complete : held.spec.withDefaults = held.spec)
    (invalid : held.spec.validate held.key.text = .error error)
    (asked : turn.request? = some request) :
    ∃ patch status, request = .store (.patchCluster key patch) ∧
      patch.Reports held error status := by
  let refuse : Replies := fun _ => .error (.serialization "")
  rcases reachable.along there with ⟨settings, now, along⟩
  rcases takes.asked asked with ⟨exchange, rfl, isHistory⟩
  have whole := takes.along along _ _ (trace_follow refuse later.rest)
  -- The pass has read its object before everything else.
  have follows := (reachable.course_keeps there).follows
  rw [subject] at follows whole
  rcases follows.past read with ⟨past, ⟨front, isPast⟩, asks⟩
  rw [(Cluster.Asks.past_of_read asks).2] at isPast
  rw [isHistory, ← isPast, List.reverse_cons, List.reverse_append, List.append_assoc] at whole
  rcases reported_of_read whole alive complete invalid with ⟨reported, _⟩
  exact reported.patch_of_mem (by simp)

/-- No step of a pass that has read an invalid spec changes more than what is told of the last pass.
-/
theorem Step.standing_of_invalid {pass : Nat} (step : Step before (.turn pass turn) after)
    (reachable : Reachable before) (there : before.courses[pass]? = some course)
    (subject : course.subject = .cluster key) (read : course.history.ReadCluster key held)
    (alive : held.metadata.isDeleting = false) (complete : held.spec.withDefaults = held.spec)
    (invalid : held.spec.validate held.key.text = .error error) :
    after.store.children = before.store.children ∧
      after.store.namespaces = before.store.namespaces ∧
      ∀ other, (after.store.clusters.get? other).map Cluster.standing =
        (before.store.clusters.get? other).map Cluster.standing := by
  cases step with
  | turn found takes =>
    cases found.symm.trans there
    have among := List.mem_of_getElem? there
    rcases takes.store_cases with rfl | ⟨request, asked, becomes⟩
    · exact ⟨rfl, rfl, fun other => rfl⟩
    rcases reachable.patch_of_invalid among takes subject read alive complete invalid asked with
      ⟨patch, status, isPatch, reports⟩
    cases isPatch
    subst becomes
    refine ⟨Store.children_answer _ rfl, Store.namespaces_answer _ (by simp), fun other => ?_⟩
    rcases before.store.get?_clusters_answer (.patchCluster key patch) other with
      same | ⟨version, value, writes, accepted⟩
    · exact congrArg (Option.map Cluster.standing) same
    · rcases reachable.amends_of_accepted among takes asked writes accepted rfl with
        ⟨own, stored, amends⟩
      rcases amends.read with ⟨exchange, isRead, reads⟩
      have isStored := amends.stored
      have also := Exchange.Reads.cluster key held
      rw [← subject] at also
      cases (reachable.course_keeps among).follows.reads_unique isRead reads read also
      rw [← own] at isStored
      cases own.trans subject
      rcases Option.map_eq_some_iff.mp isStored with ⟨_, isThere, ⟨⟩⟩
      have patched := (Store.patchCluster_of_current isThere reports.version).2.2
      change ((before.store.patchCluster key patch).2.clusters.get? key).map Cluster.standing = _
      rw [patched, isThere, Option.map_some, Option.map_some, Cluster.standing_withPatch reports]

/-- A pass asks for children only after it has read a cluster that is not being deleted and whose
spec is complete and valid. After an open spec it asks for that to be written back, and where this
failed or was too late it tells so. After an invalid spec it tells that, and it waits for a change
where nothing went wrong with the telling; meanwhile no step of the pass changes a child, a
namespace, or what a stored cluster says about itself but for the last pass. -/
theorem children_requested_only_if_valid (settings : Settings) (now : Instant) (key : ObjectKey) :
    (∀ calls result, Trace (reconcileCluster settings now key).run calls result →
      (∀ exchange ∈ calls, exchange.request.childKey?.isSome → ∃ held rest,
        calls = .answered (.store (.getCluster key)) (.ok (some held)) :: rest ∧ held.Admitted) ∧
      ∀ held rest, calls = .answered (.store (.getCluster key)) (.ok (some held)) :: rest →
        held.metadata.isDeleting = false →
        (held.spec.withDefaults ≠ held.spec → held.WritesBack settings key rest) ∧
        ∀ error, held.spec.withDefaults = held.spec →
          held.spec.validate held.key.text = .error error →
          error.reason = "ValidationFailed" ∧ held.Reported key error rest ∧
          ((∀ request failure, .answered request (.error failure) ∉ rest) →
            result = .ok .awaitChange)) ∧
    ∀ before after pass turn course held error, Reachable before →
      Step before (.turn pass turn) after → before.courses[pass]? = some course →
      course.subject = .cluster key → course.history.ReadCluster key held →
      held.metadata.isDeleting = false → held.spec.withDefaults = held.spec →
      held.spec.validate held.key.text = .error error →
      after.store.children = before.store.children ∧
      after.store.namespaces = before.store.namespaces ∧
      ∀ other, (after.store.clusters.get? other).map Cluster.standing =
        (before.store.clusters.get? other).map Cluster.standing := by
  refine ⟨fun calls result trace => ⟨fun exchange => admitted_of_childKey? trace, ?_⟩, ?_⟩
  · rintro held rest rfl alive
    refine ⟨writesBack_of_read trace alive, fun error complete invalid => ?_⟩
    rcases reported_of_read trace alive complete invalid with ⟨reported, ends⟩
    rcases ClusterSpec.exists_of_validate invalid with ⟨problem, _, rfl⟩
    exact ⟨rfl, reported, fun _ => ends⟩
  · intro before after pass turn course held error reachable step there subject read
    exact step.standing_of_invalid reachable there subject read

end Situation

/-- A ready cluster to which somebody has given a port that does not exist. -/
def Cluster.misported : Cluster :=
  { prod with
    spec := ClusterSpec.withDefaults
      { services := some { frontend := some { port := some 70000 } } } }

/-- A store that has this cluster and takes what is told of it. -/
def Replies.misported : Replies
  | .store (.getCluster _) => .ok (some .misported)
  | .store (.patchCluster _ _) => .ok ()
  | _ => .error (.serialization "unasked")

/-- The pass over the cluster waits for a change. It tells of the port, and the cluster goes on to
say that it is ready. -/
theorem Situation.children_requested_only_if_valid_of_misported :
    let subject : Subject := .cluster Cluster.misported.key
    let pass := subject.program {} default
    let begun : Situation :=
      { store := (({} : Store).insertCluster .misported).2, courses := [{ subject, rest := pass }] }
    let read := begun.advance .obliging 0
    let told := read.advance .obliging 0
    (∃ calls, Trace pass calls (.ok .awaitChange) ∧
      ∀ exchange ∈ calls, exchange.request.childKey? = none) ∧
    told.store.writes ≠ read.store.writes ∧ told.store.children = read.store.children ∧
      (told.store.clusters.get? Cluster.misported.key).map Cluster.standing =
        (read.store.clusters.get? Cluster.misported.key).map Cluster.standing := by
  intro subject pass begun read told
  have complete (spec : ClusterSpec) : spec.withDefaults.withDefaults = spec.withDefaults :=
    spec.withDefaults_withDefaults
  have gated := children_requested_only_if_valid {} default Cluster.misported.key
  constructor
  · have goes := gated.1 _ _ (trace_follow .misported pass)
    have stopped := ((goes.2 .misported _ rfl rfl).2 _ (complete _) rfl).2.2
    have waits : (follow .misported pass).2 = .ok .awaitChange := by
      refine stopped fun request failure there => ?_
      cases List.mem_singleton.mp there
    refine ⟨(follow .misported pass).1, waits ▸ trace_follow .misported pass, ?_⟩
    intro exchange asked
    rw [← Option.not_isSome_iff_eq_none]
    intro child
    rcases goes.1 exchange asked child with ⟨held, rest, same, admitted⟩
    cases same
    exact absurd admitted.valid (by decide)
  · have isBegun : Run (fun _ _ _ => True) {} [.outside, .began 0] begun :=
      .step (.step .refl (.outside (.insertCluster _ .misported)) trivial)
        (.begin _ subject {} default) trivial
    have reachable := (isBegun.reachable .start).advances .obliging 0 1
    have step : Step read (.turn 0 _) told := step_advance .obliging rfl rfl
    have kept := gated.2 _ _ 0 _ _ _ _ reachable step rfl rfl (List.mem_cons_self ..) rfl
      (complete _) rfl
    exact ⟨by decide, kept.1, kept.2.2 _⟩

end ClusterOperator
