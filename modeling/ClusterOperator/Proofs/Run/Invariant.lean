import ClusterOperator.Proofs.Run.Basic
import ClusterOperator.Proofs.Store.Reached

/-!
# Invariants of runs

In every situation that is ever reached, versions tell objects apart, a pass has asked only what
passes of its kind ask, and what a pass has read is still told apart from everything else that is
stored under the same key.
-/

namespace ClusterOperator

/-- A pass that has kept to a rule so far and is going to. -/
structure Course.Keeps (allowed : History → Request → Prop)
    (fits : History → Except Error Action → Prop) (course : Course) : Prop where
  follows : course.history.Follows allowed
  keeps : Program.Keeps allowed fits course.history course.rest

/-- What a pass has read is told apart from everything else that is stored under the same key. -/
structure Course.ReadsPinned (store : Store) (course : Course) : Prop where
  clusters : ∀ key held,
    .answered (.store (.getCluster key)) (.ok (some held)) ∈ course.history →
      Pinned Resource.metadata store.version store.clusters key held
  namespaces : ∀ key held,
    .answered (.store (.getNamespace key)) (.ok (some held)) ∈ course.history →
      Pinned Resource.metadata store.version store.namespaces key held

theorem Answered.progress {request : Request} {answer : Except Error request.Answer}
    {store later : Store} (answered : Answered request store answer later) :
    Store.Progress store later := by
  cases answered with
  | store request => exact Store.progress_answer store request
  | connect cluster => exact .refl store
  | server cluster request => exact .refl store
  | close cluster => exact .refl store

theorem Answered.store_eq {request : StoreRequest} {answer : Except Error request.Answer}
    {store later : Store} (answered : Answered (.store request) store answer later) :
    (answer, later) = store.answer request := by
  cases answered
  rfl

theorem Attempted.progress {request : Request} {store later : Store}
    (attempted : Attempted request store later) : Store.Progress store later := by
  cases attempted with
  | done request => exact Store.progress_answer store request
  | undone => exact .refl store

/-- A program that keeps to a rule goes on keeping to it after each answer. -/
theorem Program.Awaits.keeps {α : Type} {allowed : History → Request → Prop}
    {fits : History → α → Prop} {history : History} {program : Program α} {request : Request}
    {next : Except Error request.Answer → Program α} (awaits : program.Awaits request next)
    (keeps : Keeps allowed fits history program) :
    allowed history request ∧
      ∀ answer, Keeps allowed fits (.answered request answer :: history) (next answer) := by
  cases awaits with
  | call => exact ⟨keeps.1, keeps.2⟩
  | timed => exact ⟨keeps.1, keeps.2.2⟩

namespace Course

variable {course later : Course} {turn : Turn} {store laterStore : Store}

theorem Takes.progress (takes : course.Takes store turn later laterStore) :
    Store.Progress store laterStore := by
  cases takes with
  | note todo => exact .refl store
  | answer awaits answered => exact answered.progress
  | fault awaits error attempted => exact attempted.progress
  | cut todo attempted => exact attempted.progress

theorem Takes.reached (takes : course.Takes store turn later laterStore) (reached : store.Reached) :
    laterStore.Reached := by
  have attempts {request : Request} {laterStore : Store}
      (attempted : Attempted request store laterStore) : laterStore.Reached := by
    cases attempted with
    | done request => exact reached.change (.request store request)
    | undone => exact reached
  cases takes with
  | note todo => exact reached
  | answer awaits answered =>
      cases answered with
      | store request => exact reached.change (.request store request)
      | connect cluster => exact reached
      | server cluster request => exact reached
      | close cluster => exact reached
  | fault awaits error attempted => exact attempts attempted
  | cut todo attempted => exact attempts attempted

theorem Takes.subject_eq (takes : course.Takes store turn later laterStore) :
    later.subject = course.subject := by
  cases takes <;> rfl

/-- A pass forgets nothing that it has asked. -/
theorem Takes.history_suffix (takes : course.Takes store turn later laterStore) :
    course.history <:+ later.history := by
  cases takes with
  | note todo => exact List.suffix_refl _
  | answer awaits answered => exact List.suffix_cons _ _
  | fault awaits error attempted => exact List.suffix_cons _ _
  | cut todo attempted => exact List.suffix_cons _ _

/-- What a pass has asked first stays the first. -/
theorem Takes.getLast? {first : Exchange} (takes : course.Takes store turn later laterStore)
    (isFirst : course.history.getLast? = some first) : later.history.getLast? = some first := by
  rcases takes.history_suffix with ⟨front, same⟩
  rw [← same, List.getLast?_append, isFirst]
  rfl

/-- What is exchanged in a step, the pass has asked then. -/
theorem Takes.exchanged_mem {exchange : Exchange}
    (takes : course.Takes store (.exchanged exchange) later laterStore) :
    exchange ∈ later.history := by
  cases takes with
  | answer awaits answered => exact List.mem_cons_self ..
  | cut todo attempted => exact List.mem_cons_self ..

/-- A pass asks at most one thing in a step, and what happens in the step is what came of it. -/
theorem Takes.history_cases (takes : course.Takes store turn later laterStore) :
    later.history = course.history ∨ ∃ exchange, later.history = exchange :: course.history ∧
      (turn = .exchanged exchange ∨
        ∃ request error, exchange = .answered (.store request) (.error error)) := by
  cases takes with
  | note todo => exact .inl rfl
  | answer awaits answered => exact .inr ⟨_, rfl, .inl rfl⟩
  | fault awaits error attempted => exact .inr ⟨_, rfl, .inr ⟨_, error, rfl⟩⟩
  | cut todo attempted => exact .inr ⟨_, rfl, .inl rfl⟩

/-- A pass that has ended takes no further step. -/
theorem Takes.ne_done {result : Except Error Action}
    (takes : course.Takes store turn later laterStore) : course.rest ≠ .done result := by
  intro ended
  cases takes with
  | note todo => cases todo.symm.trans ended
  | answer awaits answered =>
      rw [ended] at awaits
      cases awaits
  | fault awaits error attempted =>
      rw [ended] at awaits
      cases awaits
  | cut todo attempted => cases todo.symm.trans ended

/-- A pass keeps to its rule in each of its steps. -/
theorem Takes.keeps {allowed : History → Request → Prop}
    {fits : History → Except Error Action → Prop} (takes : course.Takes store turn later laterStore)
    (keeps : course.Keeps allowed fits) : later.Keeps allowed fits := by
  rcases keeps with ⟨follows, keeps⟩
  cases takes with
  | note todo =>
      rw [todo] at keeps
      exact ⟨follows, keeps⟩
  | answer awaits answered =>
      exact ⟨⟨(awaits.keeps keeps).1, follows⟩, (awaits.keeps keeps).2 _⟩
  | fault awaits error attempted =>
      exact ⟨⟨(awaits.keeps keeps).1, follows⟩, (awaits.keeps keeps).2 _⟩
  | cut todo attempted =>
      rw [todo] at keeps
      exact ⟨⟨keeps.1, follows⟩, keeps.2.1⟩

theorem ReadsPinned.advances (pinned : course.ReadsPinned store)
    (advances : Store.Advances store laterStore) : course.ReadsPinned laterStore where
  clusters key held read := (pinned.clusters key held read).renewed advances.version_le
    advances.clusters
  namespaces key held read := (pinned.namespaces key held read).renewed advances.version_le
    advances.namespaces

/-- What the store has answered to a pass it answered before, or it answers it now. -/
theorem Takes.answered_or_now {request : StoreRequest} {answer : request.Answer}
    (takes : course.Takes store turn later laterStore)
    (asked : .answered (.store request) (.ok answer) ∈ later.history) :
    .answered (.store request) (.ok answer) ∈ course.history ∨
      turn = .exchanged (.answered (.store request) (.ok answer)) ∧
        store.answer request = (.ok answer, laterStore) := by
  cases takes with
  | note todo => exact .inl asked
  | answer awaits answered =>
      rcases List.mem_cons.mp asked with same | asked
      · cases same
        exact .inr ⟨rfl, answered.store_eq.symm⟩
      · exact .inl asked
  | fault awaits error attempted =>
      rcases List.mem_cons.mp asked with same | asked
      · cases same
      · exact .inl asked
  | cut todo attempted =>
      rcases List.mem_cons.mp asked with same | asked
      · cases same
      · exact .inl asked

/-- What a pass reads is in the store as it reads it. -/
theorem Takes.readsPinned (takes : course.Takes store turn later laterStore)
    (versioned : store.Versioned) (pinned : course.ReadsPinned store) :
    later.ReadsPinned laterStore := by
  have before := pinned.advances takes.progress.advances
  refine ⟨fun key held read => ?_, fun key held read => ?_⟩
  · rcases takes.answered_or_now read with read | ⟨_, answers⟩
    · exact before.clusters key held read
    · rcases Prod.mk.inj answers with ⟨found, rfl⟩
      exact versioned.clusters.pinned (Except.ok.inj found)
  · rcases takes.answered_or_now read with read | ⟨_, answers⟩
    · exact before.namespaces key held read
    · rcases Prod.mk.inj answers with ⟨found, rfl⟩
      exact versioned.namespaces.pinned (Except.ok.inj found)

end Course

namespace Situation

variable {before after start finish situation : Situation} {event : Event} {course : Course}
  {rule : Situation → Event → Situation → Prop} {events : List Event} {pass : Nat}

theorem Step.progress (step : Step before event after) :
    Store.Progress before.store after.store := by
  cases step with
  | outside change => exact change.progress
  | begin subject settings now => exact .refl _
  | turn there takes => exact takes.progress

/-- A pass in the later situation was there before, or has just begun, or has taken the step. -/
theorem Step.course_at (step : Step before event after)
    (there : after.courses[pass]? = some course) :
    ¬ event.IsTurnOf pass ∧ before.courses[pass]? = some course ∨
      (event = .began pass ∧ pass = before.courses.length ∧ course.history = [] ∧
        ∃ settings now, course.rest = course.subject.program settings now) ∨
      ∃ earlier turn, event = .turn pass turn ∧ before.courses[pass]? = some earlier ∧
        earlier.Takes before.store turn course after.store := by
  cases step with
  | outside change => exact .inl ⟨id, there⟩
  | begin subject settings now =>
      rcases Nat.lt_or_ge pass before.courses.length with old | new
      · rw [List.getElem?_append_left old] at there
        exact .inl ⟨id, there⟩
      · rw [List.getElem?_append_right new, List.getElem?_singleton] at there
        split at there
        · cases there
          have last : pass = before.courses.length := by omega
          exact .inr (.inl ⟨congrArg Event.began last.symm, last, rfl, settings, now, rfl⟩)
        · cases there
  | @turn taker earlier later turn store found takes =>
      by_cases same : taker = pass
      · subst same
        have inside := (List.getElem?_eq_some_iff.mp found).1
        rw [List.getElem?_set_self inside] at there
        cases there
        exact .inr (.inr ⟨earlier, turn, rfl, found, takes⟩)
      · rw [List.getElem?_set_ne same] at there
        exact .inl ⟨same, there⟩

/-- The same of a pass of which it does not matter when it began. -/
theorem Step.course_cases (step : Step before event after) (there : course ∈ after.courses) :
    course ∈ before.courses ∨
      (course.history = [] ∧
        ∃ settings now, course.rest = course.subject.program settings now) ∨
      ∃ earlier pass turn, event = .turn pass turn ∧ before.courses[pass]? = some earlier ∧
        earlier.Takes before.store turn course after.store := by
  rcases List.mem_iff_getElem?.mp there with ⟨pass, found⟩
  rcases step.course_at found with ⟨_, before⟩ | ⟨_, _, begun⟩ | ⟨earlier, turn, took⟩
  · exact .inl (List.mem_of_getElem? before)
  · exact .inr (.inl begun)
  · exact .inr (.inr ⟨earlier, pass, turn, took⟩)

theorem Reachable.versioned (reachable : Reachable situation) : situation.store.Versioned := by
  induction reachable with
  | start => exact Store.versioned_empty
  | step reachable step ih => exact step.progress.versioned ih

theorem Reachable.reached (reachable : Reachable situation) : situation.store.Reached := by
  induction reachable with
  | start => exact .start
  | step reachable step ih =>
      cases step with
      | outside change => exact ih.change change
      | begin subject settings now => exact ih
      | turn there takes => exact takes.reached ih

theorem Run.advances (run : Run rule start events finish) :
    Store.Advances start.store finish.store := by
  induction run with
  | refl => exact .refl _
  | step run step obeyed ih => exact ih.trans step.progress.advances

/-- A pass that is under way stays so, over the same object, and forgets nothing. -/
theorem Step.course_of (step : Step before event after)
    (there : before.courses[pass]? = some course) :
    ∃ later, after.courses[pass]? = some later ∧ later.subject = course.subject ∧
      course.history <:+ later.history := by
  have inside := (List.getElem?_eq_some_iff.mp there).1
  cases step with
  | outside change => exact ⟨course, there, rfl, List.suffix_refl _⟩
  | begin subject settings now =>
      refine ⟨course, ?_, rfl, List.suffix_refl _⟩
      rw [List.getElem?_append_left inside]
      exact there
  | @turn taker _ later _ _ found takes =>
      by_cases same : taker = pass
      · subst same
        cases there.symm.trans found
        refine ⟨later, ?_, takes.subject_eq, takes.history_suffix⟩
        exact List.getElem?_set_self inside
      · refine ⟨course, ?_, rfl, List.suffix_refl _⟩
        rw [List.getElem?_set_ne same]
        exact there

theorem Run.course_of (run : Run rule start events finish)
    (there : start.courses[pass]? = some course) :
    ∃ later, finish.courses[pass]? = some later ∧ later.subject = course.subject ∧
      course.history <:+ later.history := by
  induction run with
  | refl => exact ⟨course, there, rfl, List.suffix_refl _⟩
  | step run step obeyed ih =>
      rcases ih with ⟨middle, found, subject, suffix⟩
      rcases step.course_of found with ⟨later, stays, same, longer⟩
      exact ⟨later, stays, same.trans subject, suffix.trans longer⟩

/-- What holds of every pass that begins, and is preserved by its steps and by whatever happens to
the store meanwhile, holds of every pass that is ever under way. -/
theorem Reachable.course_induction (holds : Store → Course → Prop)
    (reachable : Reachable situation) (there : course ∈ situation.courses)
    (begun : ∀ store course settings now, course.history = [] →
      course.rest = course.subject.program settings now → holds store course)
    (waits : ∀ store later course, Store.Progress store later → holds store course →
      holds later course)
    (takes : ∀ store later course turn next, store.Reached →
      Course.Takes course store turn next later → holds store course → holds later next) :
    holds situation.store course := by
  induction reachable generalizing course with
  | start => cases there
  | step reachable step ih =>
      rcases step.course_cases there with earlier | ⟨fresh, settings, now, start⟩ |
        ⟨earlier, pass, turn, _, found, taken⟩
      · exact waits _ _ _ step.progress (ih earlier)
      · exact begun _ _ settings now fresh start
      · exact takes _ _ _ _ _ reachable.reached taken (ih (List.mem_of_getElem? found))

/-- What a pass has read, and what is stored after a step, was stored before the step. -/
theorem Step.stored_of_read {key : ObjectKey} {held : Namespace} (step : Step before event after)
    (pinned : course.ReadsPinned before.store)
    (read : .answered (.store (.getNamespace key)) (.ok (some held)) ∈ course.history)
    (stored : after.store.namespaces.get? key = some held) :
    before.store.namespaces.get? key = some held := by
  rcases pinned.namespaces key held read with ⟨⟨version, handedOut, carried⟩, _⟩
  exact step.progress.advances.namespaces.get?_of_older handedOut carried stored

theorem Reachable.readsPinned (reachable : Reachable situation)
    (there : course ∈ situation.courses) : course.ReadsPinned situation.store := by
  refine reachable.course_induction (fun store course => course.ReadsPinned store) there ?_ ?_ ?_
  · intro store course settings now fresh start
    refine ⟨fun key held read => ?_, fun key held read => ?_⟩ <;>
      simp only [fresh, List.not_mem_nil] at read
  · intro store later course progress pinned
    exact pinned.advances progress.advances
  · intro store later course turn next reached takes pinned
    exact takes.readsPinned reached.versioned pinned

/-- Passes keep to the rule that their programs keep to. -/
theorem Reachable.keeps {allowed : Subject → History → Request → Prop}
    {fits : Subject → History → Except Error Action → Prop}
    (program_keeps : ∀ settings now subject,
      Program.Keeps (allowed subject) (fits subject) [] (subject.program settings now))
    (reachable : Reachable situation) (there : course ∈ situation.courses) :
    course.Keeps (allowed course.subject) (fits course.subject) := by
  refine reachable.course_induction
    (fun _ course => course.Keeps (allowed course.subject) (fits course.subject)) there ?_ ?_ ?_
  · intro store course settings now fresh start
    refine ⟨?_, ?_⟩
    · rw [fresh]
      exact trivial
    · rw [fresh, start]
      exact program_keeps settings now course.subject
  · intro store later course progress keeps
    exact keeps
  · intro store later course turn next reached takes keeps
    rw [takes.subject_eq]
    exact takes.keeps keeps

end Situation

end ClusterOperator
