import ClusterOperator.Proofs.Run.Passes
import ClusterOperator.Proofs.Run.Schedule

/-!
# Objects that leave the store

A namespace that allows deletion is to leave the store only once the server's namespace is gone. Its
finalizer sees to that from the moment on at which it is stored. But a pass registers the namespace
first and stores the finalizer at its end, so an object without any finalizers can leave although
its namespace is registered: when its deletion is requested before the patch of the registering
pass, or after that was refused.
-/

namespace ClusterOperator

/-- In this event a server says that a namespace is deleted, or that it is not there. -/
def Event.Deletes (name : String) (event : Event) : Prop :=
  ∃ pass cluster answer,
    event = .turn pass (.exchanged (.answered (.server cluster (.delete name)) answer)) ∧
      confirmsDeletion answer

/-- The pass has ended. -/
def Course.Ended (course : Course) : Prop := ∃ result, course.rest = .done result

/-- A pass that is about to take the finalizer off an object, because a server's namespace is
gone. -/
def Course.Releasing (key : ObjectKey) (held : Namespace) (course : Course) : Prop :=
  course.history.Read key held ∧ course.history.Deleted held.name ∧ course.history.Unwritten ∧
    ¬ course.Ended

namespace Situation

/-- The object, if it is there, allows deletion, and its cluster is there and ready. -/
def Deletable (key : ObjectKey) (situation : Situation) : Prop :=
  ∀ held, situation.store.namespaces.get? key = some held → held.spec.allowDeletion ∧
    ∃ cluster, situation.store.clusters.get? held.clusterKey = some cluster ∧ cluster.isReady

/-- A rule for runs in which an object always allows deletion, with a cluster that is always ready,
and in which others do not change its finalizers: they can request its deletion, and where it has no
finalizers they can take it out in other ways too. -/
def Steady (key : ObjectKey) (before : Situation) (event : Event) (after : Situation) : Prop :=
  Deletable key after ∧
    (event = .outside → ∀ held, before.store.namespaces.get? key = some held →
      match after.store.namespaces.get? key with
      | some later => later.metadata.finalizerList = held.metadata.finalizerList
      | none =>
          held.metadata.finalizerList = [] ∨
            ∃ now, after.store = before.store.deleteNamespace key now)

/-- No pass under way that has read the object as it is stored found its cluster absent. -/
def Gated (key : ObjectKey) (situation : Situation) : Prop :=
  ∀ held, situation.store.namespaces.get? key = some held → ∀ course ∈ situation.courses,
    course.history.Read key held → ¬ course.history.Found held none

/-- The object has finalizers, and where a pass is about to take off one of them, a server's
namespace has gone in one of the events. -/
structure Guarded (key : ObjectKey) (events : List Event) (situation : Situation) : Prop where
  finalizers : ∀ held, situation.store.namespaces.get? key = some held →
    held.metadata.finalizerList ≠ []
  deleted : ∀ held, situation.store.namespaces.get? key = some held →
    ∀ course ∈ situation.courses, course.Releasing key held → ∃ event ∈ events,
      event.Deletes held.name

end Situation

namespace Namespace

theorem hasFinalizer_addFinalizer (ns : Namespace) : ns.addFinalizer.hasFinalizer := by
  unfold addFinalizer
  split
  · assumption
  · simp [hasFinalizer, withFinalizers, Metadata.finalizerList]

theorem hasFinalizer_alignFinalizer {ns : Namespace} (allowed : ns.spec.allowDeletion) :
    ns.alignFinalizer.hasFinalizer := by
  rw [alignFinalizer, if_pos allowed]
  exact hasFinalizer_addFinalizer ns

/-- A pass over an object that allows deletion leaves finalizers on it, unless it releases it. -/
theorem Leaves.finalizers_or_grounds {held changed : Namespace} {history : History}
    {result : Except Error Outcome} (leaves : Leaves held history changed result)
    (allowed : held.spec.allowDeletion) (finalizers : held.metadata.finalizerList ≠ []) :
    changed.metadata.finalizerList ≠ [] ∨ held.metadata.isDeleting ∧ history.MayRelease held := by
  have aligned := finalizerList_ne_nil_of_hasFinalizer (hasFinalizer_alignFinalizer allowed)
  cases leaves with
  | alone => exact .inl finalizers
  | released deleting _ _ grounds => exact .inr ⟨deleting, grounds⟩
  | unconverged => exact .inl aligned
  | converged => exact .inl aligned

/-- A pass that has asked to register an object that allows deletion leaves the finalizer on it. -/
theorem Leaves.hasFinalizer_of_registered {held changed : Namespace} {history : History}
    {result : Except Error Outcome} {cluster : Cluster} {request : NamespaceRequest}
    (leaves : Leaves held history changed result) (allowed : held.spec.allowDeletion)
    (registered : history.Asked (.server cluster (.register request))) : changed.hasFinalizer := by
  have aligned := hasFinalizer_alignFinalizer allowed
  cases leaves with
  | alone _ unregistered => exact absurd registered (unregistered cluster request)
  | released _ unregistered => exact absurd registered (unregistered cluster request)
  | unconverged => exact aligned
  | converged => exact aligned

/-- A deleted object that a patch leaves in the store has finalizers. -/
theorem finalizerList_ne_nil_of_patched {held later : Namespace}
    {patch : ObjectPatch NamespaceStatus} {writer : Store} (deleting : held.metadata.isDeleting)
    (stored : held.patched patch writer = some later) : later.metadata.finalizerList ≠ [] := by
  intro none
  unfold patched at stored
  split at stored
  · cases stored
  · rename_i unreleased
    cases stored
    refine unreleased (Bool.and_eq_true_iff.mpr ⟨deleting, ?_⟩)
    rw [none]
    rfl

end Namespace

/-- A pass does not both register and delete. -/
theorem History.Follows.not_deleted {key : ObjectKey} {history : History} {cluster : Cluster}
    {request : NamespaceRequest} {name : String} (follows : history.Follows (Namespace.Asks key))
    (registered : history.Asked (.server cluster (.register request))) :
    ¬ history.Deleted name := by
  rintro ⟨other, answer, asked, _⟩
  rcases registered with ⟨exchange, there, same⟩
  rcases follows.past there with ⟨past, suffix, asks⟩
  rw [same] at asks
  rcases asks.register_cases with ⟨held, read, alive⟩
  rcases follows.past asked with ⟨before, earlier, deletes⟩
  rcases deletes.delete_cases with ⟨also, found, _, deleting, _⟩
  have readHere : history.Read key held := suffix.subset (List.mem_cons_of_mem _ read)
  have foundHere : history.Read key also := earlier.subset (List.mem_cons_of_mem _ found)
  cases follows.read_unique readHere foundHere
  rw [deleting] at alive
  cases alive

namespace Situation

variable {start before after situation last : Situation} {events : List Event} {event : Event}
  {key : ObjectKey} {held : Namespace} {course : Course}

theorem Run.deletable (run : Run (Steady key) {} events situation) : Deletable key situation := by
  cases run with
  | refl => exact fun held there => by cases there
  | step run step obeyed => exact obeyed.1

theorem Step.gated (step : Step before event after) (reachable : Reachable before)
    (deletable : Deletable key after) (gated : Gated key before) : Gated key after := by
  intro held stored course there read found
  rcases step.course_cases there with
    earlier | ⟨fresh, _⟩ | ⟨earlier, pass, turn, rfl, under, takes⟩
  · have before := step.stored_of_read (reachable.readsPinned earlier) read stored
    exact gated held before course earlier read found
  · rw [fresh] at read
    cases read
  · have there := List.mem_of_getElem? under
    rcases takes.answered_or_now found with foundBefore | ⟨_, answers⟩
    · rcases takes.answered_or_now read with readBefore | ⟨rfl, _⟩
      · have before := step.stored_of_read (reachable.readsPinned there) readBefore stored
        exact gated held before earlier there readBefore foundBefore
      · rw [(reachable.start_of_reads there takes).2] at foundBefore
        cases foundBefore
    · rcases (deletable held stored).2 with ⟨cluster, present, _⟩
      rcases Prod.mk.inj answers with ⟨absent, same⟩
      rw [← same, show before.store.clusters.get? held.clusterKey = none from
        Except.ok.inj absent] at present
      cases present

theorem Run.gated (run : Run (Steady key) {} events situation) : Gated key situation := by
  induction run with
  | refl => exact fun held there => by cases there
  | step run step obeyed ih => exact step.gated (run.reachable .start) obeyed.1 ih

/-- An object with finalizers stays in the store with finalizers on it, or a pass takes the last one
off because a server's namespace is gone. -/
theorem Step.stays_or_releasing (step : Step before event after) (reachable : Reachable before)
    (steady : Steady key before event after) (deletable : Deletable key before)
    (gated : Gated key before) (stored : before.store.namespaces.get? key = some held)
    (finalizers : held.metadata.finalizerList ≠ []) :
    (∃ later, after.store.namespaces.get? key = some later ∧
        later.metadata.finalizerList ≠ []) ∨
      after.store.namespaces.get? key = none ∧
        ∃ course ∈ before.courses, course.Releasing key held := by
  cases step with
  | outside change =>
      left
      have untouched := steady.2 rfl held stored
      split at untouched
      · exact ⟨_, ‹_›, fun none => finalizers (untouched.symm.trans none)⟩
      · rename_i gone
        rcases untouched with none | ⟨now, same⟩
        · exact absurd none finalizers
        · rcases (Store.get?_deleteNamespace stored now).2 finalizers with ⟨later, there⟩
          dsimp only at same gone
          rw [same, there] at gone
          cases gone
  | begin subject settings now => exact .inl ⟨held, stored, finalizers⟩
  | turn under takes =>
      have there := List.mem_of_getElem? under
      rcases reachable.namespace_cases there takes key with kept | writes
      · exact .inl ⟨held, kept.trans stored, finalizers⟩
      · rcases writes.becomes with
          ⟨now, found, changed, result, _, read, unwritten, leaves, current, becomes⟩
        cases current.symm.trans stored
        rcases leaves.finalizers_or_grounds (deletable held stored).1 finalizers with
          left | ⟨deleting, absent | deleted⟩
        · rcases Namespace.patched_of_finalizers left with ⟨later, patched, same⟩
          exact .inl ⟨later, becomes.trans patched, same ▸ left⟩
        · exact absurd absent (gated held stored _ there read)
        · -- The pass takes its finalizer off, which is the last one or is not.
          cases left : held.patched (Namespace.patch now held changed result)
              before.store.advance with
          | none =>
              refine .inr ⟨becomes.trans left, _, there, read, deleted, unwritten, ?_⟩
              rintro ⟨_, ended⟩
              exact takes.ne_done ended
          | some later =>
              have remaining := Namespace.finalizerList_ne_nil_of_patched deleting left
              exact .inl ⟨later, becomes.trans left, remaining⟩

/-- A pass that gets to be about to take the finalizer off does so in an event in which a server's
namespace has gone. -/
theorem Step.releasing_cases (step : Step before event after) (reachable : Reachable before)
    (there : course ∈ after.courses) (stored : after.store.namespaces.get? key = some held)
    (releasing : course.Releasing key held) :
    before.store.namespaces.get? key = some held ∧
      (event.Deletes held.name ∨ ∃ earlier ∈ before.courses, earlier.Releasing key held) := by
  rcases releasing with ⟨read, deleted, unwritten, unended⟩
  rcases step.course_cases there with
    earlier | ⟨fresh, _⟩ | ⟨earlier, pass, turn, rfl, under, takes⟩
  · have before := step.stored_of_read (reachable.readsPinned earlier) read stored
    exact ⟨before, .inr ⟨course, earlier, read, deleted, unwritten, unended⟩⟩
  · rw [fresh] at read
    cases read
  · have there := List.mem_of_getElem? under
    rcases takes.answered_or_now read with readBefore | ⟨rfl, _⟩
    · refine ⟨step.stored_of_read (reachable.readsPinned there) readBefore stored, ?_⟩
      rcases takes.deleted_or_now deleted with before | ⟨cluster, answer, rfl, confirmed⟩
      · refine .inr ⟨earlier, there, readBefore, before, ?_, ?_⟩
        · exact unwritten.of_suffix takes.history_suffix
        · rintro ⟨_, ended⟩
          exact takes.ne_done ended
      · exact .inl ⟨pass, cluster, answer, rfl, confirmed⟩
    · rcases takes.deleted_or_now deleted with before | ⟨_, _, ⟨⟩, _⟩
      rw [(reachable.start_of_reads there takes).2] at before
      rcases before with ⟨_, _, ⟨⟩, _⟩

theorem Step.guarded (step : Step before event after) (reachable : Reachable before)
    (steady : Steady key before event after) (deletable : Deletable key before)
    (gated : Gated key before) (there : (before.store.namespaces.get? key).isSome)
    (guarded : Guarded key events before) :
    Guarded key (events ++ [event]) after := by
  rcases Option.isSome_iff_exists.mp there with ⟨earlier, stored⟩
  refine ⟨fun held becomes => ?_, fun held becomes course under releasing => ?_⟩
  · rcases step.stays_or_releasing reachable steady deletable gated stored
      (guarded.finalizers earlier stored) with ⟨later, also, left⟩ | ⟨gone, _⟩
    · cases becomes.symm.trans also
      exact left
    · cases becomes.symm.trans gone
  · rcases step.releasing_cases reachable under becomes releasing with ⟨before, now | earlier⟩
    · exact ⟨event, List.mem_append_right _ (List.mem_singleton_self event), now⟩
    · rcases earlier with ⟨earlier, under, releasing⟩
      rcases guarded.deleted held before earlier under releasing with ⟨past, happened, deletes⟩
      exact ⟨past, List.mem_append_left _ happened, deletes⟩

/-- A run by the rule in which the object is in the store all the time. -/
def Present (key : ObjectKey) (before : Situation) (event : Event) (after : Situation) : Prop :=
  Steady key before event after ∧ (after.store.namespaces.get? key).isSome

theorem Run.guarded {past : List Event} (begun : Run (Steady key) {} past start)
    (there : (start.store.namespaces.get? key).isSome) (guarded : Guarded key [] start)
    (run : Run (Present key) start events last) :
    (last.store.namespaces.get? key).isSome ∧ Guarded key events last := by
  induction run with
  | refl => exact ⟨there, guarded⟩
  | step run step obeyed ih =>
      have whole := begun.trans (run.mono fun _ _ _ present => present.1)
      exact ⟨obeyed.2, step.guarded (whole.reachable .start) obeyed.1 whole.deletable whole.gated
        ih.1 ih.2⟩

/-- The object can leave the store without a server having deleted the namespace since. -/
def CanLeave (key : ObjectKey) (start : Situation) : Prop :=
  ∃ events last event finish held, Run (Present key) start events last ∧ Step last event finish ∧
    Steady key last event finish ∧ last.store.namespaces.get? key = some held ∧
    finish.store.namespaces.get? key = none ∧ ∀ event ∈ events, ¬ event.Deletes held.name

/-- An object that no pass is about to take a finalizer off can leave undeleted just if it has no
finalizers. -/
theorem Run.canLeave_iff {past : List Event} (begun : Run (Steady key) {} past start)
    (stored : start.store.namespaces.get? key = some held)
    (unreleased : ∀ course ∈ start.courses, ¬ course.Releasing key held) :
    CanLeave key start ↔ held.metadata.finalizerList = [] := by
  constructor
  · rintro ⟨events, last, event, finish, later, run, step, steady, current, gone, undeleted⟩
    refine Classical.not_not.mp fun finalizers => ?_
    have guarded : Guarded key [] start := by
      refine ⟨fun other there => ?_, fun other there course under releasing => ?_⟩
      · cases stored.symm.trans there
        exact finalizers
      · cases stored.symm.trans there
        exact absurd releasing (unreleased course under)
    have whole := begun.trans (run.mono fun _ _ _ present => present.1)
    have kept := (begun.guarded (Option.isSome_iff_exists.mpr ⟨_, stored⟩) guarded run).2
    rcases step.stays_or_releasing (whole.reachable .start) steady whole.deletable whole.gated
      current (kept.finalizers later current) with ⟨_, there, _⟩ | ⟨_, course, under, releasing⟩
    · cases there.symm.trans gone
    · rcases kept.deleted later current course under releasing with ⟨event, happened, deletes⟩
      exact undeleted event happened deletes
  · intro finalizers
    have gone := (Store.get?_deleteNamespace stored default).1 finalizers
    refine ⟨[], start, .outside, { start with store := start.store.deleteNamespace key default },
      held, .refl, .outside (.deleteNamespace _ key default), ⟨?_, fun _ other there => ?_⟩, stored,
      gone, by simp⟩
    · intro later there
      cases gone.symm.trans there
    · dsimp only
      rw [gone]
      exact .inr ⟨default, rfl⟩

/-- A rule for runs in which the passes over an object come one after the other. -/
def OneByOne (key : ObjectKey) (before : Situation) (event : Event) (after : Situation) : Prop :=
  ∀ pass, event = .began pass → ∀ course, after.courses[pass]? = some course →
    course.subject = .ns key → ∀ other ∈ before.courses, other.subject = .ns key → other.Ended

/-- Only the last one of the passes over an object can be under way. -/
def Sequential (key : ObjectKey) (situation : Situation) : Prop :=
  ∀ (first second : Nat) (left right : Course), first < second →
    situation.courses[first]? = some left → situation.courses[second]? = some right →
    left.subject = .ns key → right.subject = .ns key → left.Ended

theorem Step.sequential (step : Step before event after) (obeyed : OneByOne key before event after)
    (sequential : Sequential key before) : Sequential key after := by
  intro first second left right less atFirst atSecond overLeft overRight
  rcases step.course_at atFirst with
    ⟨_, beforeFirst⟩ | ⟨began, last, _⟩ | ⟨earlier, turn, turned, beforeFirst, takes⟩
  · rcases step.course_at atSecond with
      ⟨_, beforeSecond⟩ | ⟨began, _⟩ | ⟨earlier, turn, _, beforeSecond, takes⟩
    · exact sequential _ _ _ _ less beforeFirst beforeSecond overLeft overRight
    · have there := List.mem_of_getElem? beforeFirst
      exact obeyed second began right atSecond overRight left there overLeft
    · rw [takes.subject_eq] at overRight
      exact sequential _ _ _ _ less beforeFirst beforeSecond overLeft overRight
  · -- No pass has begun after one that is beginning only now.
    rcases step.course_at atSecond with
      ⟨_, beforeSecond⟩ | ⟨also, _⟩ | ⟨_, _, turned, _⟩
    · have inside := (List.getElem?_eq_some_iff.mp beforeSecond).1
      omega
    · cases began.symm.trans also
      exact absurd less (Nat.lt_irrefl _)
    · cases began.symm.trans turned
  · -- A pass with a later one over the same object has ended, so it takes no step.
    rw [takes.subject_eq] at overLeft
    rcases step.course_at atSecond with
      ⟨_, beforeSecond⟩ | ⟨began, _⟩ | ⟨_, _, also, _⟩
    · rcases sequential _ _ _ _ less beforeFirst beforeSecond overLeft overRight with ⟨_, ended⟩
      exact absurd ended takes.ne_done
    · cases began.symm.trans turned
    · cases turned.symm.trans also
      exact absurd less (Nat.lt_irrefl _)

/-- When a pass over an object takes a step, the others over the object have ended. -/
theorem Step.ended_or_taker {pass : Nat} {turn : Turn} {taker : Course}
    (step : Step before (.turn pass turn) after) (sequential : Sequential key before)
    (under : before.courses[pass]? = some taker) (about : taker.subject = .ns key)
    (there : course ∈ after.courses) (subject : course.subject = .ns key) :
    course.Ended ∨ taker.Takes before.store turn course after.store := by
  rcases List.mem_iff_getElem?.mp there with ⟨index, found⟩
  rcases step.course_at found with ⟨other, before⟩ | ⟨⟨⟩, _⟩ | ⟨earlier, _, ⟨⟩, also, takes⟩
  · left
    rcases Nat.lt_or_gt_of_ne other with less | less
    · rcases sequential _ _ _ _ less under before about subject with ⟨_, ended⟩
      cases step with
      | turn also takes =>
          cases under.symm.trans also
          exact absurd ended takes.ne_done
    · exact sequential _ _ _ _ less before under subject about
  · cases under.symm.trans also
    exact .inr takes

/-- A rule for runs in which the object always allows deletion, and in which the passes over it come
one after the other. -/
def Orderly (key : ObjectKey) (before : Situation) (event : Event) (after : Situation) : Prop :=
  Steady key before event after ∧ OneByOne key before event after

theorem Run.steady {events : List Event} (run : Run (Orderly key) start events last) :
    Run (Steady key) start events last :=
  run.mono fun _ _ _ obeyed => obeyed.1

theorem Run.sequential {events : List Event} (run : Run (Orderly key) {} events situation) :
    Sequential key situation := by
  induction run with
  | refl => exact fun first second left right less there => by cases there
  | step run step obeyed ih => exact step.sequential obeyed.2 ih

variable {pass : Nat} {turn : Turn} {taker : Course}

/-- After a step of a pass over an object, only this pass can be about to take the finalizer off. -/
theorem Step.unreleased (step : Step before (.turn pass turn) after) (reachable : Reachable before)
    (sequential : Sequential key before) (under : before.courses[pass]? = some taker)
    (about : taker.subject = .ns key)
    (own : ∀ later, taker.Takes before.store turn later after.store → later ∈ after.courses →
      ¬ later.Releasing key held) :
    ∀ course ∈ after.courses, ¬ course.Releasing key held := by
  intro course there releasing
  have subject := (reachable.step step).subject_of_read there releasing.1
  rcases step.ended_or_taker sequential under about there subject with ended | takes
  · exact releasing.2.2.2 ended
  · exact own course takes there releasing

theorem Step.unreleased_of_registers {cluster : Cluster} {request : NamespaceRequest}
    {answer : Except Error Unit}
    (step : Step before
      (.turn pass (.exchanged (.answered (.server cluster (.register request)) answer))) after)
    (reachable : Reachable before) (sequential : Sequential key before)
    (under : before.courses[pass]? = some taker) (about : taker.subject = .ns key) :
    ∀ course ∈ after.courses, ¬ course.Releasing key held := by
  refine step.unreleased reachable sequential under about fun later takes there releasing => ?_
  have follows := (reachable.step step).follows there (takes.subject_eq.trans about)
  have registered : later.history.Asked (.server cluster (.register request)) :=
    ⟨_, takes.exchanged_mem, rfl⟩
  exact follows.not_deleted registered releasing.2.1

/-- When a pass that has asked to register changes what is stored, the finalizer is on it, and no
pass is about to take it off. -/
theorem Step.marked_of_registered {cluster : Cluster} {request : NamespaceRequest}
    (step : Step before (.turn pass turn) after) (reachable : Reachable before)
    (deletable : Deletable key before) (sequential : Sequential key before)
    (under : before.courses[pass]? = some taker) (about : taker.subject = .ns key)
    (registered : taker.history.Asked (.server cluster (.register request)))
    (changes : after.store.namespaces.get? key ≠ before.store.namespaces.get? key) :
    (∃ later, after.store.namespaces.get? key = some later ∧ later.hasFinalizer) ∧
      ∀ held, ∀ course ∈ after.courses, ¬ course.Releasing key held := by
  have there := List.mem_of_getElem? under
  refine ⟨?_, fun held => ?_⟩
  · cases step with
    | turn also takes =>
        cases under.symm.trans also
        rcases reachable.namespace_cases there takes key with kept | writes
        · exact absurd kept changes
        · rcases writes.becomes with ⟨_, held, _, _, _, _, _, leaves, current, becomes⟩
          have finalizer := leaves.hasFinalizer_of_registered (deletable held current).1 registered
          have kept := Namespace.finalizerList_ne_nil_of_hasFinalizer finalizer
          rcases Namespace.patched_of_finalizers kept with ⟨later, patched, same⟩
          refine ⟨later, becomes.trans patched, ?_⟩
          exact (Namespace.hasFinalizer_eq_of_finalizerList_eq same).trans finalizer
  · refine step.unreleased reachable sequential under about fun later takes _ releasing => ?_
    rcases reachable.namespace_cases there takes key with kept | writes
    · exact changes kept
    · exact writes.not_unwritten releasing.2.2.1

/-- At every moment at which no pass is about to take the finalizer off, an object can leave the
store with its namespace still on the server just if it has no finalizers. This is how it is when
the server has registered the namespace: the finalizer is stored after that. Once the pass that has
registered the namespace has patched the object, the finalizer is there, and the object does not
leave before a server has deleted the namespace. -/
theorem canLeave_iff_no_finalizers {past : List Event} (run : Run (Orderly key) {} past before)
    (under : before.courses[pass]? = some taker) (about : taker.subject = .ns key)
    (step : Step before (.turn pass turn) after)
    (obeyed : Orderly key before (.turn pass turn) after) :
    (∀ held, before.store.namespaces.get? key = some held →
      (∀ course ∈ before.courses, ¬ course.Releasing key held) →
      (CanLeave key before ↔ held.metadata.finalizerList = [])) ∧
    (∀ cluster request held,
      turn = .exchanged (.answered (.server cluster (.register request)) (.ok ())) →
      after.store.namespaces.get? key = some held →
      (CanLeave key after ↔ held.metadata.finalizerList = [])) ∧
    ∀ cluster request, taker.history.Asked (.server cluster (.register request)) →
      after.store.namespaces.get? key ≠ before.store.namespaces.get? key →
      ∃ held, after.store.namespaces.get? key = some held ∧ held.hasFinalizer ∧
        ¬ CanLeave key after := by
  have reachable := run.reachable .start
  have whole := (run.step step obeyed).steady
  refine ⟨?_, ?_, ?_⟩
  · intro held stored unreleased
    exact run.steady.canLeave_iff stored unreleased
  · rintro cluster request held rfl stored
    exact whole.canLeave_iff stored
      (step.unreleased_of_registers reachable run.sequential under about)
  · intro cluster request registered changes
    rcases step.marked_of_registered reachable run.steady.deletable run.sequential under about
      registered changes with ⟨⟨held, stored, finalizer⟩, unreleased⟩
    refine ⟨held, stored, finalizer, fun leaves => ?_⟩
    have none := (whole.canLeave_iff stored (unreleased held)).mp leaves
    exact Namespace.finalizerList_ne_nil_of_hasFinalizer finalizer none

theorem orderly_payments {step : Nat} (less : step < 8) (turn : Turn) :
    Orderly Namespace.payments.key ((ofObjects .prod .payments).advances .obliging 0 step)
      (.turn 0 turn) ((ofObjects .prod .payments).advances .obliging 0 (step + 1)) := by
  have allowed : ∀ step < 9,
      (((ofObjects .prod .payments).advances .obliging 0 step).store.namespaces.get?
        Namespace.payments.key).all fun held => held.spec.allowDeletion ∧
          (((ofObjects .prod .payments).advances .obliging 0 step).store.clusters.get?
            held.clusterKey).any Cluster.isReady := by decide
  refine ⟨⟨fun held there => ?_, ?_⟩, ?_⟩
  · have deletable := allowed (step + 1) (by omega)
    rw [there] at deletable
    rcases of_decide_eq_true deletable with ⟨allows, ready⟩
    rcases Option.any_eq_true _ _ |>.mp ready with ⟨cluster, present, ready⟩
    exact ⟨allows, cluster, present, ready⟩
  · rintro ⟨⟩
  · rintro pass ⟨⟩

theorem exists_run_payments {steps : Nat} (bound : steps ≤ 8) :
    ∃ events, Run (Orderly Namespace.payments.key) {} events
      ((ofObjects .prod .payments).advances .obliging 0 steps) := by
  have begun : Run (Orderly Namespace.payments.key) {} [.outside, .outside, .began 0]
      (ofObjects .prod .payments) := by
    refine run_ofObjects .prod .payments ⟨⟨?_, ?_⟩, ?_⟩ ⟨⟨?_, ?_⟩, ?_⟩ ⟨⟨?_, ?_⟩, ?_⟩
    · rintro held ⟨⟩
    · rintro _ held ⟨⟩
    · rintro pass ⟨⟩
    · rintro held ⟨⟩
      exact ⟨rfl, _, rfl, rfl⟩
    · rintro _ held ⟨⟩
    · rintro pass ⟨⟩
    · rintro held ⟨⟩
      exact ⟨rfl, _, rfl, rfl⟩
    · rintro ⟨⟩
    · rintro pass _ course _ _ other ⟨⟩
  have run : ∃ events, Run (Orderly Namespace.payments.key) (ofObjects .prod .payments) events
      ((ofObjects .prod .payments).advances .obliging 0 steps) :=
    exists_run_advances fun step less turn _ => orderly_payments (by omega) turn
  rcases run with ⟨events, run⟩
  exact ⟨_, begun.trans run⟩

/-- Once the server has registered the namespace its object can still leave without it, and no
longer once the pass has patched the object. -/
theorem canLeave_of_payments :
    let begun := ofObjects .prod .payments
    CanLeave Namespace.payments.key (begun.advances .obliging 0 5) ∧
      CanLeave Namespace.payments.key (begun.advances .obliging 0 7) ∧
      ∃ held, (begun.advances .obliging 0 8).store.namespaces.get? Namespace.payments.key =
          some held ∧ held.hasFinalizer ∧
        ¬ CanLeave Namespace.payments.key (begun.advances .obliging 0 8) := by
  have registers : Step ((ofObjects .prod .payments).advances .obliging 0 4)
      (.turn 0 (.exchanged (.answered (.server _ (.register _)) (.ok ()))))
      ((ofObjects .prod .payments).advances .obliging 0 5) :=
    .turn rfl (Course.takes_of_go (by exact rfl : Course.go .obliging _ _ = _)).1
  have patches : Step ((ofObjects .prod .payments).advances .obliging 0 7)
      (.turn 0 (.exchanged (.answered (.store (.patchNamespace _ _)) (.ok ()))))
      ((ofObjects .prod .payments).advances .obliging 0 8) :=
    .turn rfl (Course.takes_of_go (by exact rfl : Course.go .obliging _ _ = _)).1
  rcases exists_run_payments (by decide : 4 ≤ 8) with ⟨_, runToRegister⟩
  rcases exists_run_payments (by decide : 7 ≤ 8) with ⟨_, runToPatch⟩
  refine ⟨?_, ?_, ?_⟩
  · exact ((canLeave_iff_no_finalizers runToRegister rfl rfl registers
      (orderly_payments (by decide) _)).2.1 _ _ _ rfl rfl).mpr rfl
  · refine ((canLeave_iff_no_finalizers runToPatch rfl rfl patches
      (orderly_payments (by decide) _)).1 _ rfl ?_).mpr rfl
    intro course there releasing
    cases List.mem_singleton.mp there
    have follows := (runToPatch.reachable .start).follows there rfl
    exact follows.not_deleted ⟨_, List.mem_of_getElem? (i := 2) rfl, rfl⟩ releasing.2.1
  · exact (canLeave_iff_no_finalizers runToPatch rfl rfl patches
      (orderly_payments (by decide) _)).2.2 _ _ ⟨_, List.mem_of_getElem? (i := 2) rfl, rfl⟩
      (by decide)

end Situation

end ClusterOperator
