import ClusterOperator.Proofs.Run.Passes
import ClusterOperator.Proofs.Run.Schedule

/-!
# Releasing deleted namespaces

The finalizer of an object that is being deleted goes only after the server's namespace is gone, or
after the cluster itself is. The pass that takes it off knows this about the very object that is
stored: its patch is bound to the version that it read, so that it does not land on an object that
somebody has changed meanwhile.

Conversely, a pass that got to know this, and that neither the deadline nor another writer has come
in the way of, has taken off this finalizer and no other.
-/

namespace ClusterOperator

namespace Namespace

variable {held : Namespace}

/-- The finalizers of an object without the one that a pass takes off. -/
def otherFinalizers (held : Namespace) : List String :=
  held.metadata.finalizerList.filter fun finalizer => finalizer ≠ deletionFinalizer

theorem otherFinalizers_ne (finalizer : held.hasFinalizer) :
    held.otherFinalizers ≠ held.metadata.finalizerList := by
  intro same
  rw [otherFinalizers, List.filter_eq_self] at same
  rcases List.any_eq_true.mp finalizer with ⟨_, there, isIt⟩
  simp only [decide_eq_true_eq] at isIt
  subst isIt
  simpa using same _ there

/-- A pass that takes the finalizer off a deleted object leaves all else as it is, and it takes the
object out of the store if that was the only finalizer. -/
theorem patched_of_released {now : Instant} {writer : Store} (deleting : held.metadata.isDeleting)
    (finalizer : held.hasFinalizer) :
    held.patched (patch now held held.removeFinalizer (.ok .finished)) writer =
      if held.otherFinalizers = [] then none
      else some
        { held with
          metadata :=
            { held.metadata with
              finalizers := some held.otherFinalizers
              resourceVersion := some writer.currentVersion } } := by
  have finalizers : (patch now held held.removeFinalizer (.ok .finished)).finalizers =
      some held.otherFinalizers := if_neg (otherFinalizers_ne finalizer)
  have status : (patch now held held.removeFinalizer (.ok .finished)).status = none := if_pos rfl
  have left : held.withPatch (patch now held held.removeFinalizer (.ok .finished)) writer =
      { held with
        metadata :=
          { held.metadata with
            finalizers := some held.otherFinalizers
            resourceVersion := some writer.currentVersion } } := by
    rw [Resource.withPatch, finalizers, status]
    rfl
  rw [patched, left]
  cases others : held.otherFinalizers with
  | nil =>
      rw [if_pos rfl, if_pos]
      exact Bool.and_eq_true_iff.mpr ⟨deleting, rfl⟩
  | cons other rest =>
      rw [if_neg (List.cons_ne_nil _ _), isReleased_eq_false_of_finalizers]
      · rfl
      · exact List.cons_ne_nil _ _

theorem isEmpty_patch_of_released {now : Instant} (finalizer : held.hasFinalizer) :
    (patch now held held.removeFinalizer (.ok .finished)).isEmpty = false := by
  have finalizers : (patch now held held.removeFinalizer (.ok .finished)).finalizers =
      some held.otherFinalizers := if_neg (otherFinalizers_ne finalizer)
  rw [ObjectPatch.isEmpty, finalizers]
  rfl

/-- In time, a pass that knows that it may take the finalizer off does so. -/
theorem Leaves.released_of_grounds {history : History} {changed : Namespace}
    {result : Except Error Outcome} (leaves : Leaves held history changed result)
    (deleting : held.metadata.isDeleting) (finalizer : held.hasFinalizer)
    (inTime : history.InTime) (grounds : history.MayRelease held) :
    changed = held.removeFinalizer ∧ result = .ok .finished := by
  rcases leaves.deleting_cases deleting with ⟨_, kept⟩ | ⟨changed, result, _⟩
  · exact absurd grounds (kept finalizer inTime)
  · exact ⟨changed, result⟩

end Namespace

/-- A run in which nobody but one pass touches what is stored under a key, and in which the store
does not fail that pass. -/
def Situation.Undisturbed (key : ObjectKey) (pass : Nat) (before : Situation) (event : Event)
    (after : Situation) : Prop :=
  (∀ exchange, event ≠ .turn pass (.faulted exchange)) ∧
    (¬ event.IsTurnOf pass →
      after.store.namespaces.get? key = before.store.namespaces.get? key)

/-- What is stored is what a pass has read, or once it has written, what its patch has made of it.
-/
structure Course.Current (key : ObjectKey) (store : Store) (course : Course) : Prop where
  unwritten : ∀ held, course.history.Read key held → course.history.Unwritten →
    store.namespaces.get? key = some held
  written : ∀ held patch, course.history.Read key held →
    course.history.Asked (.store (.patchNamespace key patch)) →
    ∃ writer, store.namespaces.get? key = held.patched patch writer

namespace History

variable {history : History} {exchange : Exchange}

theorem inTime_of_all (answered : history.all Exchange.isAnswered) : history.InTime := by
  intro request struck
  cases List.all_eq_true.mp answered _ struck

theorem InTime.of_suffix {earlier : History} (inTime : InTime history)
    (suffix : earlier <:+ history) : InTime earlier :=
  fun request struck => inTime request (suffix.subset struck)

/-- The patch at its end tells a pass nothing about servers and clusters. -/
theorem MayRelease.of_patched {held : Namespace} {key : ObjectKey}
    {patch : ObjectPatch NamespaceStatus} {answer : Except Error Unit}
    (grounds : MayRelease (.answered (.store (.patchNamespace key patch)) answer :: history) held) :
    MayRelease history held := by
  rcases grounds with found | ⟨cluster, answer, deleted, confirmed⟩
  · exact .inl ((List.mem_cons.mp found).resolve_left nofun)
  · exact .inr ⟨cluster, answer, (List.mem_cons.mp deleted).resolve_left nofun, confirmed⟩

end History

namespace Course

variable {course later : Course} {turn : Turn} {key : ObjectKey} {store laterStore : Store}

theorem Current.congr (current : course.Current key store)
    (same : laterStore.namespaces.get? key = store.namespaces.get? key) :
    course.Current key laterStore where
  unwritten held read unwritten := same.trans (current.unwritten held read unwritten)
  written held patch read asked := by
    rcases current.written held patch read asked with ⟨writer, stored⟩
    exact ⟨writer, same.trans stored⟩

theorem current_of_history_eq_nil (fresh : course.history = []) : course.Current key store where
  unwritten held read := by
    rw [fresh] at read
    cases read
  written held patch read := by
    rw [fresh] at read
    cases read

/-- A pass knows what is stored as long as only its own steps change that. -/
theorem Takes.current (takes : course.Takes store turn later laterStore)
    (follows : later.history.Follows (Namespace.Asks key))
    (unfaulted : ∀ exchange, turn ≠ .faulted exchange) (inTime : later.history.InTime)
    (current : course.Current key store) : later.Current key laterStore := by
  cases takes with
  | note todo => exact ⟨current.unwritten, current.written⟩
  | fault awaits error attempted => exact absurd rfl (unfaulted _)
  | cut todo attempted => exact absurd inTime History.not_inTime_of_cut
  | answer awaits answered =>
      rcases follows with ⟨asks, follows⟩
      cases asks with
      | prepare prepares =>
          have kept : laterStore.namespaces = store.namespaces := by
            cases answered with
            | store request =>
                refine Store.namespaces_answer store fun other patch same => ?_
                subst same
                exact prepares.ne_patch
            | connect cluster => rfl
            | server cluster request => rfl
            | close cluster => rfl
          refine ⟨fun held read unwritten => ?_, fun held patch read asked => ?_⟩
          · rcases List.mem_cons.mp read with same | read
            · cases same
              rcases Prod.mk.inj answered.store_eq with ⟨found, rfl⟩
              exact (Except.ok.inj found).symm
            · rw [kept]
              exact current.unwritten held read (unwritten.of_suffix (List.suffix_cons _ _))
          · rcases History.asked_cons.mp asked with same | before
            · rw [same] at prepares
              exact prepares.ne_patch.elim
            · rcases List.mem_cons.mp read with same | read
              · cases same
                rcases (Namespace.Asks.prepare prepares).past_of_read with ⟨_, empty⟩
                rw [empty] at before
                exact absurd before History.asked_nil
              · rw [kept]
                exact current.written held patch read before
      | write now read unwritten leaves =>
          rcases Prod.mk.inj answered.store_eq with ⟨_, rfl⟩
          refine ⟨fun held also unwritten => ?_, fun held patch also asked => ?_⟩
          · exact absurd (History.asked_cons.mpr (.inl rfl)) (unwritten _ _)
          · rcases List.mem_cons.mp also with same | also
            · cases same
            cases follows.read_unique read also
            rcases History.asked_cons.mp asked with same | asked
            · cases same
              have there := current.unwritten _ read unwritten
              exact ⟨_, (Store.patchNamespace_of_current there rfl).2⟩
            · exact absurd asked (unwritten _ _)

end Course

namespace Situation

variable {start before after finish : Situation} {pass : Nat} {course : Course} {turn : Turn}
  {key : ObjectKey} {held : Namespace}

/-- A pass that takes the finalizer off an object which is being deleted, or takes the object out of
the store by that, has read this very object, and knows that it may. -/
theorem Step.grounds_of_taken (step : Step before (.turn pass turn) after)
    (reachable : Reachable before) (stored : before.store.namespaces.get? key = some held)
    (deleting : held.metadata.isDeleting) (finalizer : held.hasFinalizer)
    (taken : ∀ later, after.store.namespaces.get? key = some later → later.hasFinalizer = false) :
    ∃ course, before.courses[pass]? = some course ∧ course.subject = .ns key ∧
      course.history.Read key held ∧ course.history.MayRelease held := by
  cases step with
  | turn found takes =>
      rcases reachable.namespace_cases (List.mem_of_getElem? found) takes key with kept | writes
      · have same := taken held (kept.trans stored)
        rw [finalizer] at same
        cases same
      · rcases writes.becomes with
          ⟨_, read, _, _, subject, known, _, leaves, there, becomes⟩
        cases there.symm.trans stored
        rcases leaves.deleting_cases deleting with ⟨rfl, _⟩ | ⟨_, _, grounds⟩
        · -- The pass has left the finalizer on, so it is still on what the patch has stored.
          have kept := Namespace.finalizerList_ne_nil_of_hasFinalizer finalizer
          rcases Namespace.patched_of_finalizers kept with ⟨later, patched, same⟩
          have gone := taken later (becomes.trans patched)
          rw [Namespace.hasFinalizer_eq_of_finalizerList_eq same, finalizer] at gone
          cases gone
        · exact ⟨_, found, subject, known, grounds⟩

/-- Through a run in which nobody else touches the object, the pass knows what is stored. -/
theorem Run.current {events : List Event} (run : Run (Undisturbed key pass) start events finish)
    (reachable : Reachable start)
    (fresh : ∀ course, start.courses[pass]? = some course → course.history = [])
    (there : finish.courses[pass]? = some course) (subject : course.subject = .ns key)
    (inTime : course.history.InTime) : course.Current key finish.store := by
  induction run generalizing course with
  | refl => exact Course.current_of_history_eq_nil (fresh course there)
  | @step middle finish events event run step obeyed ih =>
      rcases obeyed with ⟨unfaulted, kept⟩
      rcases step.course_at there with
        ⟨other, earlier⟩ | ⟨_, _, unasked, _⟩ | ⟨earlier, turn, rfl, found, takes⟩
      · exact (ih earlier subject inTime).congr (kept other)
      · exact Course.current_of_history_eq_nil unasked
      · have keeps := (run.reachable reachable).course_keeps (List.mem_of_getElem? found)
        have follows := (takes.keeps keeps).follows
        rw [takes.subject_eq] at subject
        rw [subject] at follows
        have current := ih found subject (inTime.of_suffix takes.history_suffix)
        refine takes.current follows ?_ inTime current
        intro exchange same
        exact unfaulted exchange (congrArg _ same)

/-- A pass that got to know that it may, and that nothing came in the way of, has taken off the
finalizer and left the others. -/
theorem Run.released {events : List Event} {result : Except Error Action}
    (run : Run (Undisturbed key pass) start events finish) (reachable : Reachable start)
    (fresh : ∀ course, start.courses[pass]? = some course → course.history = [])
    (there : finish.courses[pass]? = some course) (subject : course.subject = .ns key)
    (ended : course.rest = .done result) (inTime : course.history.InTime)
    (read : course.history.Read key held) (deleting : held.metadata.isDeleting)
    (finalizer : held.hasFinalizer) (grounds : course.history.MayRelease held) :
    ∃ version, finish.store.namespaces.get? key =
      if held.otherFinalizers = [] then none
      else some
        { held with
          metadata :=
            { held.metadata with
              finalizers := some held.otherFinalizers
              resourceVersion := some version } } := by
  have current := run.current reachable fresh there subject inTime
  have follows := (run.reachable reachable).follows (List.mem_of_getElem? there) subject
  have ends := (run.reachable reachable).ends (List.mem_of_getElem? there) subject ended
  rcases current with ⟨_, written⟩
  generalize course.history = history at *
  cases ends with
  | unread unread => exact absurd read (unread held)
  | unchanged now also leaves empty =>
      cases follows.read_unique read also
      rcases leaves.released_of_grounds deleting finalizer inTime grounds with ⟨rfl, rfl⟩
      rw [Namespace.isEmpty_patch_of_released finalizer] at empty
      cases empty
  | patched now also leaves answer =>
      have before : History.Read _ key held := (List.mem_cons.mp read).resolve_left nofun
      cases follows.2.read_unique before also
      rcases leaves.released_of_grounds deleting finalizer
        (inTime.of_suffix (List.suffix_cons _ _)) grounds.of_patched with ⟨rfl, rfl⟩
      rcases written held _ (List.mem_cons_of_mem _ before)
        (History.asked_cons.mpr (.inl rfl)) with ⟨writer, stored⟩
      rw [Namespace.patched_of_released deleting finalizer] at stored
      exact ⟨_, stored⟩

/-- A pass that goes on by itself is not disturbed. -/
theorem exists_undisturbed_advances (key : ObjectKey) (servers : Servers) (pass steps : Nat)
    (situation : Situation) :
    ∃ events, Run (Undisturbed key pass) situation events
      (situation.advances servers pass steps) := by
  refine exists_run_advances fun step _ turn unfaulted => ⟨?_, ?_⟩
  · rintro exchange ⟨⟩
    exact unfaulted exchange rfl
  · exact fun other => absurd rfl other

/-- In every run, whoever else does whatever to the store and to the passes: a step of a pass after
which a deleted object lacks the finalizer that it had, or is gone with it, is a step of a pass that
has read this very object, and that has found its cluster absent or was told by a server that the
namespace is gone. Conversely a pass with such grounds, which the deadline does not strike, in a run
in which nobody else writes the object from its reading on, ends with the object as it was read but
for this finalizer, or with no object if there was no other finalizer. -/
theorem release_of_deletionFinalizer (deleting : held.metadata.isDeleting)
    (finalizer : held.hasFinalizer) :
    (∀ (before after : Situation) (pass : Nat) (turn : Turn),
      Reachable before → Step before (.turn pass turn) after →
      before.store.namespaces.get? key = some held →
      (∀ later, after.store.namespaces.get? key = some later → later.hasFinalizer = false) →
      ∃ course, before.courses[pass]? = some course ∧ course.subject = .ns key ∧
        course.history.Read key held ∧ course.history.MayRelease held) ∧
    ∀ (start finish : Situation) (events : List Event) (pass : Nat) (course : Course)
      (result : Except Error Action),
      Reachable start → (∀ course, start.courses[pass]? = some course → course.history = []) →
      Run (Undisturbed key pass) start events finish →
      finish.courses[pass]? = some course → course.subject = .ns key →
      course.rest = .done result → course.history.InTime →
      course.history.Read key held → course.history.MayRelease held →
      ∃ version, finish.store.namespaces.get? key =
        if held.otherFinalizers = [] then none
        else some
          { held with
            metadata :=
              { held.metadata with
                finalizers := some held.otherFinalizers
                resourceVersion := some version } } := by
  refine ⟨?_, ?_⟩
  · intro before after pass turn reachable step stored taken
    exact step.grounds_of_taken reachable stored deleting finalizer taken
  · intro start finish events pass course result reachable fresh run there subject ended inTime read
      grounds
    exact run.released reachable fresh there subject ended inTime read deleting finalizer grounds

theorem release_of_leaving :
    let start := ofObjects .prod .leaving
    (∃ course, (start.advances .obliging 0 6).courses[0]? = some course ∧
      course.subject = .ns Namespace.leaving.key ∧
      course.history.Read Namespace.leaving.key .leaving ∧ course.history.MayRelease .leaving) ∧
    ∃ version, (start.advances .obliging 0 8).store.namespaces.get? Namespace.leaving.key =
      some
        { Namespace.leaving with
          metadata :=
            { Namespace.leaving.metadata with
              finalizers := some ["backup"]
              resourceVersion := some version } } := by
  have reachable := reachable_ofObjects .prod .leaving
  have deleting : Namespace.leaving.metadata.isDeleting := rfl
  have finalizer : Namespace.leaving.hasFinalizer := rfl
  refine ⟨?_, ?_⟩
  · rcases advance_eq_or_step .obliging 0 ((ofObjects .prod .leaving).advances .obliging 0 6) with
      same | ⟨turn, _, step⟩
    · exact absurd (congrArg (fun situation => situation.store.version) same) (by decide)
    · refine (release_of_deletionFinalizer deleting finalizer).1 _ _ 0 turn
        (reachable.advances _ _ _) step rfl ?_
      rintro later ⟨⟩
      rfl
  · have there : ((ofObjects .prod .leaving).advances .obliging 0 8).courses[0]? = some _ := rfl
    rcases exists_undisturbed_advances Namespace.leaving.key .obliging 0 8
      (ofObjects .prod .leaving) with ⟨events, run⟩
    refine (release_of_deletionFinalizer deleting finalizer).2 _ _ events 0 _ _ reachable ?_ run
      there rfl rfl (History.inTime_of_all rfl) ?_ ?_
    · rintro course ⟨⟩
      rfl
    · exact List.mem_of_getElem? (i := 5) rfl
    · exact .inr ⟨_, _, List.mem_of_getElem? (i := 2) rfl, rfl⟩

/-- The deadline covers the closing of the connection too: where it strikes there, the server has
deleted the namespace, nobody else has touched the object, and the finalizer stays. -/
theorem finalizer_stays_when_closing_is_late :
    let start := ofObjects .prod .leaving
    let finish := start.advances .lateAtClose 0 8
    Reachable start ∧ (∃ events, Run (Undisturbed Namespace.leaving.key 0) start events finish) ∧
      (∃ course result, finish.courses[0]? = some course ∧ course.rest = .done result ∧
        course.history.Read Namespace.leaving.key .leaving ∧
        course.history.Deleted Namespace.leaving.name) ∧
      ∃ later, finish.store.namespaces.get? Namespace.leaving.key = some later ∧
        later.hasFinalizer := by
  refine ⟨reachable_ofObjects _ _, exists_undisturbed_advances _ _ _ _ _, ?_, ?_⟩
  · refine ⟨_, _, rfl, rfl, ?_, ?_⟩
    · exact List.mem_of_getElem? (i := 5) rfl
    · exact ⟨_, _, List.mem_of_getElem? (i := 2) rfl, rfl⟩
  · exact ⟨_, rfl, rfl⟩

end Situation

end ClusterOperator
