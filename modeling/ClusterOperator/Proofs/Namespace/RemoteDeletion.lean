import ClusterOperator.Proofs.Run.Passes
import ClusterOperator.Proofs.Run.Schedule

/-!
# Deleting namespaces on servers

A pass deletes the server's namespace exactly where the object that it has read is being deleted and
carries the finalizer, and where it has got a connection to a cluster that is ready. Whether the
spec allows deletion is not looked at then: it decides, earlier, whether a pass puts the finalizer
on. So the server's namespace is safe as long as the object has never allowed deletion, and not from
the moment on at which it no longer does.
-/

namespace ClusterOperator

namespace Namespace

/-- An ended pass that was connected for an object that is being deleted has asked to delete. -/
theorem Ends.asked_delete {key : ObjectKey} {history : History} {held : Namespace}
    {cluster : Cluster} (ends : Ends key history) (follows : history.Follows (Asks key))
    (read : history.Read key held) (deleting : held.metadata.isDeleting)
    (connected : history.Connected cluster) :
    history.Asked (.server cluster (.delete held.name)) := by
  cases ends with
  | unread unread => exact absurd read (unread held)
  | unchanged now also leaves empty =>
      cases follows.read_unique read also
      exact leaves.asked_delete deleting connected
  | patched now also leaves answer =>
      cases follows.read_unique read (List.mem_cons_of_mem _ also)
      have before := (List.mem_cons.mp connected).resolve_left nofun
      exact History.asked_cons.mpr (.inr (leaves.asked_delete deleting before))

variable {held changed : Namespace}

theorem hasFinalizer_removeFinalizer (ns : Namespace) :
    ns.removeFinalizer.hasFinalizer = false := by
  unfold hasFinalizer removeFinalizer withFinalizers
  simp [Metadata.finalizerList]

/-- A pass over an object that does not allow deletion leaves no finalizer that was not there. -/
theorem Leaves.hasFinalizer_eq_false {history : History} {result : Except Error Outcome}
    (leaves : Leaves held history changed result) (disallowed : held.spec.allowDeletion = false)
    (bare : held.hasFinalizer = false) : changed.hasFinalizer = false := by
  have aligned : held.alignFinalizer = held.removeFinalizer := by
    rw [alignFinalizer, disallowed]
    rfl
  cases leaves with
  | alone => exact bare
  | released => exact hasFinalizer_removeFinalizer held
  | unconverged =>
      rw [aligned]
      exact hasFinalizer_removeFinalizer held
  | converged =>
      rw [aligned]
      exact hasFinalizer_removeFinalizer held

end Namespace

namespace Situation

variable {situation : Situation} {course : Course} {key : ObjectKey}

theorem Reachable.deletion_cases {cluster : Cluster} {name : String}
    (reachable : Reachable situation) (there : course ∈ situation.courses)
    (asked : course.history.Asked (.server cluster (.delete name))) :
    ∃ key held, course.subject = .ns key ∧ course.history.Read key held ∧ name = held.name ∧
      held.metadata.isDeleting ∧ held.hasFinalizer ∧ course.history.Found held (some cluster) ∧
      cluster.isReady ∧ course.history.Connected cluster := by
  have follows := (reachable.course_keeps there).follows
  rcases asked with ⟨exchange, asked, same⟩
  rcases follows.past asked with ⟨past, suffix, asks⟩
  rw [same] at asks
  cases subject : course.subject with
  | cluster owner =>
      rw [subject] at asks
      exact asks.concerns.elim
  | ns key =>
      rw [subject] at asks
      rcases Namespace.Asks.delete_cases asks with
        ⟨held, read, named, deleting, finalizer, found, ready, connected⟩
      have before : past ⊆ course.history := fun _ there =>
        suffix.subset (List.mem_cons_of_mem _ there)
      exact ⟨key, held, rfl, before read, named, deleting, finalizer, before found, ready,
        before connected⟩

/-- A rule for runs in which no stored version of an object allows deletion, and in which others do
not put the finalizer on. -/
def NeverAllowed (key : ObjectKey) (before : Situation) (event : Event) (after : Situation) :
    Prop :=
  (∀ held, after.store.namespaces.get? key = some held → held.spec.allowDeletion = false) ∧
    (event = .outside → ∀ held, after.store.namespaces.get? key = some held → held.hasFinalizer →
      ∃ earlier, before.store.namespaces.get? key = some earlier ∧ earlier.hasFinalizer)

/-- The finalizer is not on the object, and the passes under way have not seen it there. -/
structure Unmarked (key : ObjectKey) (situation : Situation) : Prop where
  stored : ∀ held, situation.store.namespaces.get? key = some held → held.hasFinalizer = false
  read : ∀ course ∈ situation.courses, ∀ held, course.history.Read key held →
    held.hasFinalizer = false ∧ held.spec.allowDeletion = false

theorem Step.unmarked {before after : Situation} {event : Event} (step : Step before event after)
    (reachable : Reachable before) (obeyed : NeverAllowed key before event after)
    (unmarked : Unmarked key before) : Unmarked key after := by
  rcases obeyed with ⟨disallowed, untouched⟩
  rcases unmarked with ⟨bare, unread⟩
  refine ⟨fun held stored => ?_, fun course there held read => ?_⟩
  · cases step with
    | outside change =>
        cases finalizer : held.hasFinalizer with
        | false => rfl
        | true =>
            rcases untouched rfl held stored finalizer with ⟨earlier, before, had⟩
            rw [bare earlier before] at had
            cases had
    | begin subject settings now => exact bare held stored
    | turn found takes =>
        have under := List.mem_of_getElem? found
        rcases reachable.namespace_cases under takes key with kept | writes
        · exact bare held (kept.symm.trans stored)
        · rcases writes.becomes with ⟨_, earlier, _, _, _, read, _, leaves, _, becomes⟩
          have same := Namespace.finalizerList_of_patched (becomes.symm.trans stored)
          rcases unread _ under earlier read with ⟨unmarked, disallowed⟩
          rw [Namespace.hasFinalizer_eq_of_finalizerList_eq same]
          exact leaves.hasFinalizer_eq_false disallowed unmarked
  · rcases step.course_cases there with
      earlier | ⟨fresh, _⟩ | ⟨earlier, pass, turn, rfl, found, takes⟩
    · exact unread course earlier held read
    · rw [fresh] at read
      cases read
    · rcases takes.answered_or_now read with before | ⟨_, answers⟩
      · exact unread earlier (List.mem_of_getElem? found) held before
      · rcases Prod.mk.inj answers with ⟨answered, same⟩
        have stored := Except.ok.inj answered
        refine ⟨bare held stored, disallowed held ?_⟩
        rw [← same]
        exact stored

theorem Run.unmarked {events : List Event} (run : Run (NeverAllowed key) {} events situation) :
    Unmarked key situation := by
  induction run with
  | refl =>
      refine ⟨fun held there => ?_, fun course there => ?_⟩
      · cases there
      · cases there
  | step run step obeyed ih => exact step.unmarked (run.reachable .start) obeyed ih

/-- A pass asks a server to delete a namespace only for its own object, which it has read as being
deleted and with the finalizer, and whose cluster it has found ready. A pass that has read its
object and ended has asked for that just if it was so and there was a connection, whatever the spec
says about deletion. But on an object that never allowed deletion, and that nobody else puts the
finalizer on, no pass ever does. -/
theorem remoteDeletion_of_finalizer (reachable : Reachable situation)
    (there : course ∈ situation.courses) (subject : course.subject = .ns key) :
    (∀ cluster name, course.history.Asked (.server cluster (.delete name)) →
      ∃ held, course.history.Read key held ∧ name = held.name ∧ held.metadata.isDeleting ∧
        held.hasFinalizer ∧ course.history.Found held (some cluster) ∧ cluster.isReady ∧
        course.history.Connected cluster) ∧
    (∀ result held, course.rest = .done result → course.history.Read key held →
      ((∃ cluster name, course.history.Asked (.server cluster (.delete name))) ↔
        held.metadata.isDeleting ∧ held.hasFinalizer ∧
          ∃ cluster, course.history.Found held (some cluster) ∧ cluster.isReady ∧
            course.history.Connected cluster)) ∧
    ∀ events, Run (NeverAllowed key) {} events situation →
      ∀ cluster name, ¬ course.history.Asked (.server cluster (.delete name)) := by
  have asks {cluster : Cluster} {name : String}
      (asked : course.history.Asked (.server cluster (.delete name))) :
      ∃ held, course.history.Read key held ∧ name = held.name ∧ held.metadata.isDeleting ∧
        held.hasFinalizer ∧ course.history.Found held (some cluster) ∧ cluster.isReady ∧
        course.history.Connected cluster := by
    rcases reachable.deletion_cases there asked with ⟨owner, held, also, cases⟩
    cases also.symm.trans subject
    exact ⟨held, cases⟩
  refine ⟨fun cluster name => asks, ?_, ?_⟩
  · intro result held ended read
    have follows := reachable.follows there subject
    constructor
    · rintro ⟨cluster, name, asked⟩
      rcases asks asked with ⟨found, other, _, deleting, finalizer, gate, ready, connected⟩
      cases follows.read_unique read other
      exact ⟨deleting, finalizer, cluster, gate, ready, connected⟩
    · rintro ⟨deleting, finalizer, cluster, gate, ready, connected⟩
      have ends := reachable.ends there subject ended
      exact ⟨cluster, held.name, ends.asked_delete follows read deleting connected⟩
  · intro events run cluster name asked
    rcases asks asked with ⟨held, read, _, _, finalizer, _⟩
    rw [(run.unmarked.read course there held read).1] at finalizer
    cases finalizer

end Situation

/-- The namespace with its finalizer, once its deletion was requested but no longer allowed. -/
def Namespace.unwanted : Namespace :=
  { leaving with spec := { leaving.spec with allowDeletion := false } }

/-- The namespace as it never allows deletion. -/
def Namespace.kept : Namespace :=
  { payments with spec := { payments.spec with allowDeletion := false } }

namespace Situation

theorem exists_run_kept :
    ∃ events, Run (NeverAllowed Namespace.kept.key) {} events
      ((ofObjects .prod .kept).advances .obliging 0 12) := by
  have begun : Run (NeverAllowed Namespace.kept.key) {} [.outside, .outside, .began 0]
      (ofObjects .prod .kept) := by
    refine run_ofObjects .prod .kept ⟨?_, ?_⟩ ⟨?_, ?_⟩ ⟨?_, ?_⟩
    · rintro held ⟨⟩
    · rintro _ held ⟨⟩
    · rintro held ⟨⟩
      rfl
    · rintro _ held ⟨⟩ ⟨⟩
    · rintro held ⟨⟩
      rfl
    · rintro ⟨⟩
  have disallowed : ∀ step < 13,
      (((ofObjects .prod .kept).advances .obliging 0 step).store.namespaces.get?
        Namespace.kept.key).all (!·.spec.allowDeletion) := by decide
  have run : ∃ events, Run (NeverAllowed Namespace.kept.key) (ofObjects .prod .kept) events
      ((ofObjects .prod .kept).advances .obliging 0 12) := by
    refine exists_run_advances fun step less turn unfaulted => ⟨fun held there => ?_, ?_⟩
    · have := disallowed (step + 1) (by omega)
      rw [there] at this
      simpa using this
    · rintro ⟨⟩
  rcases run with ⟨events, run⟩
  exact ⟨_, begun.trans run⟩

theorem remoteDeletion_of_unwanted :
    (∃ course ∈ ((ofObjects .prod .unwanted).advances .obliging 0 8).courses,
      course.history.Read Namespace.unwanted.key .unwanted ∧
        Namespace.unwanted.spec.allowDeletion = false ∧
        ∃ cluster name, course.history.Asked (.server cluster (.delete name)) ∧
          ∃ held, course.history.Read Namespace.unwanted.key held ∧ name = held.name ∧
            held.metadata.isDeleting) ∧
    ∃ course, ((ofObjects .prod .kept).advances .obliging 0 12).courses[0]? = some course ∧
      ∀ cluster name, ¬ course.history.Asked (.server cluster (.delete name)) := by
  refine ⟨?_, ?_⟩
  · have reachable := (reachable_ofObjects .prod .unwanted).advances .obliging 0 8
    have found : ((ofObjects .prod .unwanted).advances .obliging 0 8).courses[0]? = some _ := rfl
    have there := List.mem_of_getElem? found
    refine ⟨_, there, List.mem_of_getElem? (i := 5) rfl, rfl, ?_⟩
    rcases ((remoteDeletion_of_finalizer reachable there rfl).2.1 _ .unwanted rfl
      (List.mem_of_getElem? (i := 5) rfl)).mpr
      ⟨rfl, rfl, _, List.mem_of_getElem? (i := 4) rfl, rfl, List.mem_of_getElem? (i := 3) rfl⟩
      with ⟨cluster, name, asked⟩
    rcases (remoteDeletion_of_finalizer reachable there rfl).1 cluster name asked with
      ⟨held, read, named, deleting, _⟩
    exact ⟨cluster, name, asked, held, read, named, deleting⟩
  · rcases exists_run_kept with ⟨events, run⟩
    have found : ((ofObjects .prod .kept).advances .obliging 0 12).courses[0]? = some _ := rfl
    refine ⟨_, found, ?_⟩
    exact (remoteDeletion_of_finalizer (run.reachable .start) (List.mem_of_getElem? found) rfl).2.2
      events run

end Situation

end ClusterOperator
