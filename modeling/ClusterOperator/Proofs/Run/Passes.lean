import ClusterOperator.Proofs.Cluster.Requests
import ClusterOperator.Proofs.Namespace.Requests
import ClusterOperator.Proofs.Run.Invariant
import ClusterOperator.Proofs.Store.Patch

/-!
# Passes in runs

Whatever else goes on, every pass that is under way has asked what passes of its kind ask. So among
all passes only one over the very namespace changes that, at its end, and only while what is stored
is what the pass has read.
-/

namespace ClusterOperator

/-- What a pass asks, and after what. -/
def Subject.Asks : Subject → History → Request → Prop
  | cluster key, history, request => Cluster.Asks key history request
  | ns key, history, request => Namespace.Asks key history request

/-- How a pass ends. -/
def Subject.Ends : Subject → History → Except Error Action → Prop
  | cluster _, _, _ => True
  | ns key, history, _ => Namespace.Ends key history

theorem Subject.keeps_program (settings : Settings) (now : Instant) (subject : Subject) :
    Program.Keeps subject.Asks subject.Ends [] (subject.program settings now) := by
  cases subject with
  | cluster key => exact Program.keeps_reconcileCluster settings now key
  | ns key => exact Program.keeps_reconcileNamespace settings now key

namespace Situation

variable {situation : Situation} {course : Course}

/-- A pass that is under way has asked, and will ask, what passes over its object ask. -/
theorem Reachable.course_keeps (reachable : Reachable situation)
    (there : course ∈ situation.courses) : course.Keeps course.subject.Asks course.subject.Ends :=
  reachable.keeps Subject.keeps_program there

theorem Reachable.follows {key : ObjectKey} (reachable : Reachable situation)
    (there : course ∈ situation.courses) (subject : course.subject = .ns key) :
    course.history.Follows (Namespace.Asks key) := by
  have follows := (reachable.course_keeps there).follows
  rw [subject] at follows
  exact follows

theorem Reachable.ends {key : ObjectKey} {result : Except Error Action}
    (reachable : Reachable situation) (there : course ∈ situation.courses)
    (subject : course.subject = .ns key) (ended : course.rest = .done result) :
    Namespace.Ends key course.history := by
  have ends := (reachable.course_keeps there).keeps
  rw [ended, subject] at ends
  exact ends

end Situation

namespace History

variable {key : ObjectKey} {history : History} {held other : Namespace}

/-- A pass reads its object once, before everything else. -/
theorem Follows.read_unique (follows : history.Follows (Namespace.Asks key))
    (read : history.Read key held) (also : history.Read key other) : held = other := by
  have only (past : History) (asks : Namespace.Asks key past (.store (.getNamespace key))) :
      past = [] :=
    asks.past_of_read.2
  cases follows.eq_of_first only read rfl also rfl
  rfl

end History

namespace Namespace

variable {held changed later : Namespace} {now : Instant} {result : Except Error Outcome}
  {writer : Store}

theorem hasFinalizer_eq_of_finalizerList_eq
    (same : later.metadata.finalizerList = held.metadata.finalizerList) :
    later.hasFinalizer = held.hasFinalizer := by
  unfold hasFinalizer
  rw [same]

theorem finalizerList_withPatch :
    (held.withPatch (patch now held changed result) writer).metadata.finalizerList =
      changed.metadata.finalizerList := by
  rw [patch, Resource.finalizerList_withPatch_between, Resource.metadata_record]

/-- What is stored after a pass has the finalizers that the pass leaves. -/
theorem finalizerList_of_patched
    (stored : held.patched (patch now held changed result) writer = some later) :
    later.metadata.finalizerList = changed.metadata.finalizerList := by
  unfold patched at stored
  split at stored
  · cases stored
  · cases stored
    exact finalizerList_withPatch

theorem finalizerList_ne_nil_of_hasFinalizer (finalizer : held.hasFinalizer) :
    held.metadata.finalizerList ≠ [] := by
  intro none
  unfold hasFinalizer at finalizer
  rw [none] at finalizer
  cases finalizer

/-- A finalizer keeps an object. -/
theorem isReleased_eq_false_of_finalizers (kept : held.metadata.finalizerList ≠ []) :
    held.metadata.isReleased = false := by
  unfold Metadata.isReleased
  cases finalizers : held.metadata.finalizerList with
  | nil => exact absurd finalizers kept
  | cons finalizer rest => simp

/-- A pass that leaves finalizers on an object leaves the object in the store. -/
theorem patched_of_finalizers (kept : changed.metadata.finalizerList ≠ []) :
    ∃ later, held.patched (patch now held changed result) writer = some later ∧
      later.metadata.finalizerList = changed.metadata.finalizerList := by
  refine ⟨held.withPatch (patch now held changed result) writer, ?_, finalizerList_withPatch⟩
  rw [patched, isReleased_eq_false_of_finalizers]
  · rfl
  · rw [finalizerList_withPatch]
    exact kept

end Namespace

/-- A pass sends the patch at its end, on the object that it has read. -/
inductive Course.Writes (key : ObjectKey) (course : Course) (store : Store) :
    Course → Store → Prop
  | intro {held changed : Namespace} {result : Except Error Outcome} {exchange : Exchange}
      {rest : Program (Except Error Action)} (now : Instant) (subject : course.subject = .ns key)
      (read : course.history.Read key held) (unwritten : course.history.Unwritten)
      (leaves : Namespace.Leaves held course.history changed result)
      (there : store.namespaces.get? key = some held)
      (asked : exchange.request =
        .store (.patchNamespace key (Namespace.patch now held changed result))) :
      Writes key course store { course with history := exchange :: course.history, rest }
        (store.patchNamespace key (Namespace.patch now held changed result)).2

namespace Course

variable {course later : Course} {turn : Turn} {store laterStore : Store}

theorem Writes.not_unwritten {key : ObjectKey} (writes : course.Writes key store later laterStore) :
    ¬ later.history.Unwritten := by
  cases writes with
  | intro now subject read unwritten leaves there asked =>
      exact fun unwritten => unwritten key _ (History.asked_cons.mpr (.inl asked))

/-- What is stored after that is what the patch makes of the object that the pass has read. -/
theorem Writes.becomes {key : ObjectKey} (writes : course.Writes key store later laterStore) :
    ∃ now held changed result, course.subject = .ns key ∧ course.history.Read key held ∧
      course.history.Unwritten ∧ Namespace.Leaves held course.history changed result ∧
      store.namespaces.get? key = some held ∧
      laterStore.namespaces.get? key =
        held.patched (Namespace.patch now held changed result) store.advance := by
  cases writes with
  | intro now subject read unwritten leaves there asked =>
      refine ⟨now, _, _, _, subject, read, unwritten, leaves, there, ?_⟩
      exact (Store.patchNamespace_of_current there rfl).2

/-- What a server has said about a namespace it said before, or it says it now. -/
theorem Takes.deleted_or_now {name : String} (takes : course.Takes store turn later laterStore)
    (deleted : later.history.Deleted name) :
    course.history.Deleted name ∨ ∃ cluster answer,
      turn = .exchanged (.answered (.server cluster (.delete name)) answer) ∧
        confirmsDeletion answer := by
  rcases deleted with ⟨cluster, answer, asked, confirmed⟩
  rcases takes.history_cases with same | ⟨exchange, same, now⟩
  · rw [same] at asked
    exact .inl ⟨cluster, answer, asked, confirmed⟩
  · rw [same] at asked
    rcases List.mem_cons.mp asked with rfl | asked
    · rcases now with rfl | ⟨_, _, ⟨⟩⟩
      exact .inr ⟨cluster, answer, rfl, confirmed⟩
    · exact .inl ⟨cluster, answer, asked, confirmed⟩

/-- A pass changes the store only by a request that it may make. -/
theorem Takes.effect {allowed : History → Request → Prop}
    {fits : History → Except Error Action → Prop} (takes : course.Takes store turn later laterStore)
    (keeps : course.Keeps allowed fits) :
    laterStore = store ∨ ∃ request exchange rest,
      exchange.request = .store request ∧ allowed course.history (.store request) ∧
        later = { course with history := exchange :: course.history, rest } ∧
        laterStore = (store.answer request).2 := by
  cases takes with
  | note todo => exact .inl rfl
  | answer awaits answered =>
      have allows := (awaits.keeps keeps.keeps).1
      cases answered with
      | store request => exact .inr ⟨request, _, _, rfl, allows, rfl, rfl⟩
      | connect cluster => exact .inl rfl
      | server cluster request => exact .inl rfl
      | close cluster => exact .inl rfl
  | fault awaits error attempted =>
      have allows := (awaits.keeps keeps.keeps).1
      cases attempted with
      | done => exact .inr ⟨_, _, _, rfl, allows, rfl, rfl⟩
      | undone => exact .inl rfl
  | cut todo attempted =>
      have allows := keeps.keeps
      rw [todo] at allows
      cases attempted with
      | done request => exact .inr ⟨request, _, _, rfl, allows.1, rfl, rfl⟩
      | undone => exact .inl rfl

end Course

namespace Situation

variable {before after : Situation} {pass : Nat} {course later : Course} {turn : Turn}
  {store laterStore : Store}

/-- A pass leaves a namespace as it is, or it sends the patch at its end for it. -/
theorem Reachable.namespace_cases (reachable : Reachable before) (there : course ∈ before.courses)
    (takes : course.Takes before.store turn later laterStore) (key : ObjectKey) :
    laterStore.namespaces.get? key = before.store.namespaces.get? key ∨
      course.Writes key before.store later laterStore := by
  rcases takes.effect (reachable.course_keeps there) with
    rfl | ⟨request, exchange, rest, same, asks, rfl, rfl⟩
  · exact .inl rfl
  · cases request with
    | patchNamespace other patch =>
        obtain ⟨kind, subject⟩ : ∃ kind, course.subject = kind := ⟨_, rfl⟩
        rw [subject] at asks
        cases kind with
        | cluster owner => exact asks.concerns.elim
        | ns owner =>
            rcases asks.patch_cases with
              ⟨rfl, unwritten, now, held, changed, result, read, leaves, rfl⟩
            by_cases ne : other = key
            · subst ne
              rcases Store.get?_patchNamespace before.store other
                (Namespace.patch now held changed result) with kept | ⟨stored, current, bound, _⟩
              · exact .inl kept
              -- A patch of a pass is bound to a version, and what was read is alone in that.
              rcases (reachable.readsPinned there).namespaces other held read with
                ⟨⟨version, _, carried⟩, alone⟩
              have same : stored = held := by
                refine alone stored current ?_
                rcases bound with unbound | bound
                · rw [Namespace.patch, ObjectPatch.between, carried] at unbound
                  cases unbound
                · exact bound
              subst same
              exact .inr (.intro now subject read unwritten leaves current ‹_›)
            · exact .inl (Store.get?_patchNamespace_of_ne ne)
    | _ => exact .inl (congrArg (SortedMap.get? · key) (Store.namespaces_answer _ nofun))

/-- A pass that has read a namespace is over it. -/
theorem Reachable.subject_of_read {key : ObjectKey} {held : Namespace}
    (reachable : Reachable before) (there : course ∈ before.courses)
    (read : course.history.Read key held) : course.subject = .ns key := by
  rcases (reachable.course_keeps there).follows.past read with ⟨past, _, asks⟩
  cases subject : course.subject with
  | cluster owner =>
      rw [subject] at asks
      exact asks.concerns.elim
  | ns owner =>
      rw [subject] at asks
      rw [asks.past_of_read.1]

/-- A pass that reads a namespace is over it, and has asked nothing before. -/
theorem Reachable.start_of_reads {key : ObjectKey} {held : Namespace}
    (reachable : Reachable before) (there : course ∈ before.courses)
    (takes : course.Takes before.store
      (.exchanged (.answered (.store (.getNamespace key)) (.ok (some held)))) later laterStore) :
    course.subject = .ns key ∧ course.history = [] := by
  cases takes with
  | answer awaits answered =>
      have asks := (awaits.keeps (reachable.course_keeps there).keeps).1
      cases subject : course.subject with
      | cluster owner =>
          rw [subject] at asks
          exact asks.concerns.elim
      | ns owner =>
          rw [subject] at asks
          rcases asks.past_of_read with ⟨rfl, empty⟩
          exact ⟨rfl, empty⟩

end Situation

end ClusterOperator
