import ClusterOperator.Proofs.Backoff.Delay
import ClusterOperator.Proofs.Order.Passes
import ClusterOperator.Proofs.Run.Gating
import ClusterOperator.Proofs.Run.Keeping
import ClusterOperator.Proofs.Run.Success

/-!
# How often objects have failed

While passes run, the operator counts the failed passes of every object: a pass that fails is handed
to the error policy, which counts one more. The count starts again from nothing with a pass that
succeeds. Passes that stop for an error that only the user can mend do neither.
-/

namespace ClusterOperator

open Program

/-! ### Counts -/

theorem FailureCounts.count_record (failures : FailureCounts) (key other : String) :
    (failures.record key).count other =
      if key = other then Nat.min (failures.count key + 1) maxFailures
      else failures.count other := by
  unfold count record
  rw [SortedMap.get?_insert]
  split
  · rfl
  · rfl

theorem FailureCounts.count_reset (failures : FailureCounts) (key other : String) :
    (failures.reset key).count other = if key = other then 0 else failures.count other := by
  unfold count reset
  rw [SortedMap.get?_erase]
  split
  · rfl
  · rfl

/-! ### The scripts of passes under way -/

/-- A pass has done this, and with every way on from here it is a way through the program. -/
def Course.Enacts (program : Program (Except Error Action)) (past : Script) (course : Course) :
    Prop :=
  past.calls = course.history.reverse ∧ ∀ script result,
    Scripted course.rest script result → Scripted program (past ++ script) result

namespace Course

variable {course later : Course} {turn : Turn} {store laterStore : Store} {past : Script}
  {program : Program (Except Error Action)}

theorem enacts_begun (fresh : course.history = []) (start : course.rest = program) :
    course.Enacts program [] := by
  refine ⟨?_, fun script result scripted => ?_⟩
  · rw [fresh]
    rfl
  · rwa [start] at scripted

theorem Enacts.push {item : Exchange ⊕ Note} (enacts : course.Enacts program past)
    (calls : Script.calls (past ++ [item]) = later.history.reverse)
    (follows : ∀ script result, Scripted later.rest script result →
      Scripted course.rest (item :: script) result) :
    later.Enacts program (past ++ [item]) := by
  refine ⟨calls, fun script result scripted => ?_⟩
  rw [List.append_assoc]
  exact enacts.2 _ _ (follows script result scripted)

theorem Enacts.exchange {exchange : Exchange} (enacts : course.Enacts program past)
    (history : later.history = exchange :: course.history)
    (follows : ∀ script result, Scripted later.rest script result →
      Scripted course.rest (.inl exchange :: script) result) :
    later.Enacts program (past ++ [.inl exchange]) := by
  refine enacts.push ?_ follows
  rw [Script.calls_append, enacts.1, history, List.reverse_cons]
  rfl

/-- In a step a pass goes on by what it writes down or by a request. -/
theorem Takes.enacts (takes : course.Takes store turn later laterStore)
    (enacts : course.Enacts program past) :
    (∃ entry, turn = .noted ∧ course.rest = .note entry later.rest ∧
      later.history = course.history ∧ later.Enacts program (past ++ [.inr entry])) ∨
    ∃ exchange, turn ≠ .noted ∧ later.Enacts program (past ++ [.inl exchange]) := by
  have answered {request : Request} {answer : Except Error request.Answer}
      {next : Except Error request.Answer → Program (Except Error Action)}
      (awaits : course.rest.Awaits request next) (script : Script) (result : Except Error Action)
      (scripted : Scripted (next answer) script result) :
      Scripted course.rest (.inl (.answered request answer) :: script) result := by
    generalize course.rest = program at awaits
    cases awaits with
    | call => exact ⟨answer, script, rfl, scripted⟩
    | timed => exact .inr ⟨answer, script, rfl, scripted⟩
  cases takes with
  | @note entry rest _ todo =>
      refine .inl ⟨entry, rfl, todo, rfl, enacts.push ?_ fun script result scripted => ?_⟩
      · rw [Script.calls_append, enacts.1]
        exact List.append_nil _
      · rw [todo]
        exact ⟨script, rfl, scripted⟩
  | answer awaits isAnswer =>
      exact .inr ⟨_, by simp, enacts.exchange rfl (answered awaits)⟩
  | fault awaits error attempted =>
      exact .inr ⟨_, by simp, enacts.exchange rfl (answered awaits)⟩
  | cut todo attempted =>
      refine .inr ⟨_, by simp, enacts.exchange rfl fun script result scripted => ?_⟩
      rw [todo]
      exact .inl ⟨script, rfl, scripted⟩

/-- A pass that has come to its end takes no more steps. -/
theorem Takes.rest_ne_done (takes : course.Takes store turn later laterStore)
    (result : Except Error Action) : course.rest ≠ .done result := by
  intro ended
  cases takes with
  | note todo => cases todo.symm.trans ended
  | answer awaits isAnswer =>
      rw [ended] at awaits
      cases awaits
  | fault awaits error attempted =>
      rw [ended] at awaits
      cases awaits
  | cut todo attempted => cases todo.symm.trans ended

/-- A pass has ended well. -/
def Succeeded (settings : Settings) (now : Instant) (course : Course) : Prop :=
  (∃ action, course.rest = .done (.ok action)) ∧
    course.subject.Succeeds settings now course.history.reverse

/-- The step in which a pass ends well is the one in which it says that earlier failures of its
object no longer count. -/
theorem Takes.settled_iff {settings : Settings} {now : Instant}
    (takes : course.Takes store turn later laterStore)
    (enacts : course.Enacts (course.subject.program settings now) past) (key : String) :
    turn = .noted ∧ course.rest = .note (.settled key) later.rest ↔
      later.Succeeded settings now ∧ key = course.subject.failureKey := by
  constructor
  · rintro ⟨rfl, todo⟩
    rcases takes.enacts enacts with ⟨entry, _, also, history, goes⟩ | ⟨exchange, other, _⟩
    · cases todo.symm.trans also
      have settles (script : Script) (result : Except Error Action)
          (scripted : Scripted later.rest script result) :
          course.subject.Settles settings now (past ++ .inr (.settled key) :: script) result := by
        rw [List.append_cons]
        exact Subject.settles_of_scripted (goes.2 script result scripted)
      have ends : ∃ value, later.rest = .done value := eq_done_of_scripted
        fun script result scripted => (settles script result scripted).of_settled.1
      rcases ends with ⟨result, ends⟩
      rcases (settles [] result (by simp [ends, Scripted])).of_settled with
        ⟨_, isKey, ⟨action, rfl⟩, succeeds⟩
      refine ⟨⟨⟨action, ends⟩, ?_⟩, isKey⟩
      rw [takes.subject_eq, history, ← enacts.1]
      exact succeeds
    · exact absurd rfl other
  · rintro ⟨⟨⟨action, ends⟩, succeeds⟩, rfl⟩
    have whole {item : Exchange ⊕ Note}
        (goes : later.Enacts (course.subject.program settings now) (past ++ [item])) :
        item = .inr (.settled course.subject.failureKey) := by
      have scripted := goes.2 [] (.ok action) (by simp [ends, Scripted])
      rw [List.append_nil] at scripted
      rw [takes.subject_eq, ← goes.1] at succeeds
      rcases (Subject.settles_of_scripted scripted).of_succeeds succeeds with ⟨front, same⟩
      exact (List.cons.inj (List.append_inj' same rfl).2).1
    rcases takes.enacts enacts with ⟨entry, isNoted, todo, _, goes⟩ | ⟨exchange, _, goes⟩
    · cases whole goes
      exact ⟨isNoted, todo⟩
    · cases whole goes

/-- In the step in which a pass ends well the failures of its object are forgotten; in all other
steps of passes all failures stay counted. -/
theorem Takes.failures {settings : Settings} {now : Instant} {situation : Situation} {pass : Nat}
    (takes : course.Takes store turn later laterStore)
    (enacts : course.Enacts (course.subject.program settings now) past)
    (there : situation.courses[pass]? = some course) (state : OperatorState) :
    later.Succeeded settings now ∧
        (state.after situation (.turn pass turn)).failures =
          state.failures.reset course.subject.failureKey ∨
      ¬ later.Succeeded settings now ∧
        (state.after situation (.turn pass turn)).failures = state.failures := by
  by_cases succeeded : later.Succeeded settings now
  · rcases (takes.settled_iff enacts _).mpr ⟨succeeded, rfl⟩ with ⟨rfl, todo⟩
    refine .inl ⟨succeeded, ?_⟩
    simp [OperatorState.after, OperatorState.take, there, todo]
  · refine .inr ⟨succeeded, ?_⟩
    have unsettled (key : String) :
        ¬ (turn = .noted ∧ course.rest = .note (.settled key) later.rest) :=
      fun settled => succeeded ((takes.settled_iff enacts key).mp settled).1
    cases takes with
    | @note entry rest _ todo =>
        cases entry with
        | settled key => exact absurd ⟨rfl, todo⟩ (unsettled key)
        | listed ns => simp [OperatorState.after, OperatorState.take, there, todo]
        | unlisted key => simp [OperatorState.after, OperatorState.take, there, todo]
    | answer awaits isAnswer => rfl
    | fault awaits error attempted => rfl
    | cut todo attempted => rfl

end Course

/-! ### The operator at work -/

/-- What the operator does and keeps: the passes that have begun and the times at which they did,
and the failed ones that were handed to the error policy. -/
structure Operation where
  situation : Situation := {}
  times : List Instant := []
  operator : OperatorState := {}
  handed : List Nat := []

/-- What happens while the operator works. -/
inductive Occurrence where
  | happened (event : Event)
  /-- A failed pass is handed to the error policy. -/
  | policy (pass : Nat)

/-- The pass does something, or is handed to the error policy. -/
def Occurrence.IsOf (pass : Nat) : Occurrence → Prop
  | happened event => event.IsTurnOf pass
  | policy taken => taken = pass

namespace Operation

/-- One step. A pass is handed to the error policy when it has failed, and only once. -/
inductive Step (settings : Settings) : Operation → Occurrence → Operation → Prop
  | outside {operation : Operation} {store : Store}
      (change : operation.situation.store.Change store) :
      Step settings operation (.happened .outside)
        { operation with situation := { operation.situation with store } }
  | begin (operation : Operation) (subject : Subject) (now : Instant) :
      Step settings operation (.happened (.began operation.situation.courses.length))
        { operation with
          situation :=
            { operation.situation with
              courses :=
                operation.situation.courses ++ [{ subject, rest := subject.program settings now }] }
          times := operation.times ++ [now] }
  | turn {operation : Operation} {pass : Nat} {turn : Turn} {situation : Situation}
      (step : operation.situation.Step (.turn pass turn) situation) :
      Step settings operation (.happened (.turn pass turn))
        { operation with
          situation
          operator := operation.operator.after operation.situation (.turn pass turn) }
  | policy {operation : Operation} {pass : Nat} {course : Course} {error : Error}
      (there : operation.situation.courses[pass]? = some course)
      (failed : course.rest = .done (.error error)) (fresh : pass ∉ operation.handed) :
      Step settings operation (.policy pass)
        { operation with
          operator := operation.operator.fail course.subject.failureKey
          handed := pass :: operation.handed }

/-- The operator starts with nothing but what is stored. -/
inductive Reachable (settings : Settings) : Operation → Prop
  | start (store : Store) : Reachable settings { situation := { store } }
  | step {before after : Operation} {occurrence : Occurrence}
      (reachable : Reachable settings before) (step : Step settings before occurrence after) :
      Reachable settings after

/-- One operation comes to another one in some steps. -/
inductive Leads (settings : Settings) (start : Operation) : Operation → Prop
  | refl : Leads settings start start
  | step {before after : Operation} {occurrence : Occurrence}
      (leads : Leads settings start before) (step : Step settings before occurrence after) :
      Leads settings start after

/-- What is said of a pass holds of it, with the time at which it began. -/
def Has (operation : Operation) (pass : Nat) (property : Instant → Course → Prop) : Prop :=
  ∃ course now, operation.situation.courses[pass]? = some course ∧
    operation.times[pass]? = some now ∧ property now course

/-- The pass is over the object. -/
def IsOver (operation : Operation) (pass : Nat) (subject : Subject) : Prop :=
  ∃ course, operation.situation.courses[pass]? = some course ∧ course.subject = subject

/-- The pass over the object has ended well. -/
def Clears (settings : Settings) (operation : Operation) (pass : Nat) (subject : Subject) : Prop :=
  operation.Has pass fun now course =>
    course.subject = subject ∧ course.Succeeded settings now

/-- The pass has stopped for an error that only the user can mend. -/
def Blocks (settings : Settings) (operation : Operation) (pass : Nat) : Prop :=
  operation.Has pass fun now course =>
    course.subject.Blocked settings now course.history.reverse

/-- How often the error policy was called for an object since the last pass over it that ended
well. -/
inductive Tally (settings : Settings) (subject : Subject) : Operation → Nat → Prop
  | start (store : Store) : Tally settings subject { situation := { store } } 0
  | called {before after : Operation} {calls pass : Nat}
      (tally : Tally settings subject before calls)
      (step : Step settings before (.policy pass) after) (about : before.IsOver pass subject) :
      Tally settings subject after (calls + 1)
  | cleared {before after : Operation} {calls pass : Nat} {turn : Turn}
      (tally : Tally settings subject before calls)
      (step : Step settings before (.happened (.turn pass turn)) after)
      (clears : after.Clears settings pass subject) : Tally settings subject after 0
  | other {before after : Operation} {calls : Nat} {occurrence : Occurrence}
      (tally : Tally settings subject before calls) (step : Step settings before occurrence after)
      (uncalled : ∀ pass, occurrence = .policy pass → ¬ before.IsOver pass subject)
      (uncleared : ∀ pass turn, occurrence = .happened (.turn pass turn) →
        ¬ after.Clears settings pass subject) :
      Tally settings subject after calls

/-- No Kubernetes namespace has a slash in its name. -/
def Plain (operation : Operation) : Prop :=
  ∀ course ∈ operation.situation.courses, '/' ∉ course.subject.namespaceName.toList

/-- Every pass under way goes the way of its program. -/
def Enacted (settings : Settings) (operation : Operation) : Prop :=
  operation.times.length = operation.situation.courses.length ∧
    ∀ (pass : Nat) (course : Course), operation.situation.courses[pass]? = some course →
      ∃ now past, operation.times[pass]? = some now ∧
        course.Enacts (course.subject.program settings now) past

section Steps

variable {settings : Settings} {before after operation : Operation} {occurrence : Occurrence}
  {subject : Subject} {calls pass : Nat} {course : Course} {turn : Turn}

theorem Enacted.begin (enacted : before.Enacted settings) (subject : Subject) (now : Instant)
    {later : Operation} (courses : later.situation.courses =
      before.situation.courses ++ [{ subject, rest := subject.program settings now }])
    (times : later.times = before.times ++ [now]) : later.Enacted settings := by
  rcases enacted with ⟨sameLength, enacts⟩
  refine ⟨by simp [courses, times, sameLength], fun pass course there => ?_⟩
  rw [courses] at there
  rw [times]
  rcases Nat.lt_or_ge pass before.situation.courses.length with old | new
  · rw [List.getElem?_append_left old] at there
    rw [List.getElem?_append_left (sameLength ▸ old)]
    exact enacts pass course there
  · rw [List.getElem?_append_right new, List.getElem?_singleton] at there
    split at there
    · cases there
      rw [List.getElem?_append_right (sameLength ▸ new), sameLength, List.getElem?_singleton,
        if_pos ‹_›]
      exact ⟨now, [], rfl, Course.enacts_begun rfl rfl⟩
    · cases there

theorem Enacted.take (enacted : before.Enacted settings) {situation : Situation}
    (step : before.situation.Step (.turn pass turn) situation) (operator : OperatorState) :
    Enacted settings { before with situation, operator } := by
  rcases enacted with ⟨sameLength, enacts⟩
  cases step with
  | turn found takes =>
      refine ⟨by simp [sameLength], fun pass course there => ?_⟩
      rw [List.getElem?_set] at there
      split at there
      · rename_i same
        subst same
        split at there
        · cases there
          rcases enacts _ _ found with ⟨now, past, began, goes⟩
          rw [takes.subject_eq]
          rcases takes.enacts goes with ⟨_, _, _, _, goes⟩ | ⟨_, _, goes⟩
          · exact ⟨now, _, began, goes⟩
          · exact ⟨now, _, began, goes⟩
        · cases there
      · exact enacts pass course there

theorem Step.enacted (step : Step settings before occurrence after)
    (enacted : before.Enacted settings) : after.Enacted settings := by
  cases step with
  | outside change => exact enacted
  | begin subject now => exact enacted.begin subject now rfl rfl
  | turn step => exact enacted.take step _
  | policy there failed fresh => exact enacted

theorem Reachable.enacted (reachable : Reachable settings operation) :
    operation.Enacted settings := by
  induction reachable with
  | start store =>
      refine ⟨rfl, ?_⟩
      rintro pass course ⟨⟩
  | step reachable step ih => exact step.enacted ih

theorem Reachable.enacts (reachable : Reachable settings operation)
    (there : operation.situation.courses[pass]? = some course) :
    ∃ now past, operation.times[pass]? = some now ∧
      course.Enacts (course.subject.program settings now) past :=
  reachable.enacted.2 pass course there

/-- A pass that ends well clears the failures of its object; other steps of passes leave all counts
as they are. -/
theorem Step.clears_or_keeps (step : Step settings before (.happened (.turn pass turn)) after)
    (reachable : Reachable settings before) :
    (∃ subject, before.IsOver pass subject ∧ after.Clears settings pass subject ∧
      after.operator.failures = before.operator.failures.reset subject.failureKey) ∨
    (∀ subject, ¬ after.Clears settings pass subject) ∧
      after.operator.failures = before.operator.failures := by
  cases step with
  | turn step =>
      cases step with
      | @turn _ course later _ store there takes =>
          rcases reachable.enacts there with ⟨now, past, began, goes⟩
          have inside := (List.getElem?_eq_some_iff.mp there).1
          have found := List.getElem?_set_self (l := before.situation.courses) (a := later) inside
          rcases takes.failures goes there before.operator with ⟨succeeded, forgets⟩ |
            ⟨fails, keeps⟩
          · refine .inl ⟨course.subject, ⟨course, there, rfl⟩, ?_, forgets⟩
            refine ⟨later, now, found, began, ?_⟩
            exact ⟨takes.subject_eq, succeeded⟩
          · refine .inr ⟨?_, keeps⟩
            rintro subject ⟨ended, also, isLater, stillBegan, rfl, succeeded⟩
            cases found.symm.trans isLater
            cases began.symm.trans stillBegan
            exact fails succeeded

/-- The pass that is handed to the error policy counts once more for its object. -/
theorem Step.counts (step : Step settings before (.policy pass) after) :
    ∃ course error, before.situation.courses[pass]? = some course ∧
      course.rest = .done (.error error) ∧
      after.operator.failures = before.operator.failures.record course.subject.failureKey := by
  cases step with
  | policy there failed fresh => exact ⟨_, _, there, failed, rfl⟩

/-- Passes stay, and what they are over. -/
theorem Step.course_of (step : Step settings before occurrence after)
    (there : before.situation.courses[pass]? = some course) :
    ∃ later, after.situation.courses[pass]? = some later ∧ later.subject = course.subject := by
  have inside := (List.getElem?_eq_some_iff.mp there).1
  cases step with
  | outside change => exact ⟨course, there, rfl⟩
  | policy found failed fresh => exact ⟨course, there, rfl⟩
  | begin subject now => exact ⟨course, (List.getElem?_append_left inside).trans there, rfl⟩
  | turn step =>
      rcases step.course_of there with ⟨later, found, same, _⟩
      exact ⟨later, found, same⟩

theorem Step.plain (step : Step settings before occurrence after) (plain : after.Plain) :
    before.Plain := by
  intro course there
  rcases List.mem_iff_getElem?.mp there with ⟨pass, found⟩
  rcases step.course_of found with ⟨later, isLater, same⟩
  rw [← same]
  exact plain later (List.mem_of_getElem? isLater)

theorem IsOver.eq {other : Subject} (about : operation.IsOver pass subject)
    (also : operation.IsOver pass other) : subject = other := by
  rcases about with ⟨course, there, rfl⟩
  rcases also with ⟨same, found, rfl⟩
  cases there.symm.trans found
  rfl

theorem IsOver.failureKey_ne {other : Subject} (about : operation.IsOver pass other)
    (plain : operation.Plain) (plainOwn : '/' ∉ subject.namespaceName.toList)
    (apart : ¬ operation.IsOver pass subject) : other.failureKey ≠ subject.failureKey := by
  rcases about with ⟨course, there, rfl⟩
  have ne : course.subject ≠ subject := fun same => apart ⟨course, there, same⟩
  have written := Subject.writtenApart_of_plain ne (plain _ (List.mem_of_getElem? there)) plainOwn
  exact written.failureKey_ne

theorem Tally.reachable (tally : Tally settings subject operation calls) :
    Reachable settings operation := by
  induction tally with
  | start store => exact .start store
  | called tally step about ih => exact ih.step step
  | cleared tally step clears ih => exact ih.step step
  | other tally step uncalled uncleared ih => exact ih.step step

theorem Reachable.exists_tally (reachable : Reachable settings operation) (subject : Subject) :
    ∃ calls, Tally settings subject operation calls := by
  induction reachable with
  | start store => exact ⟨0, .start store⟩
  | @step before after occurrence reachable step ih =>
      rcases ih with ⟨calls, tally⟩
      by_cases called : ∃ pass, occurrence = .policy pass ∧ before.IsOver pass subject
      · rcases called with ⟨pass, rfl, about⟩
        exact ⟨calls + 1, tally.called step about⟩
      · by_cases cleared : ∃ pass turn, occurrence = .happened (.turn pass turn) ∧
          after.Clears settings pass subject
        · rcases cleared with ⟨pass, turn, rfl, clears⟩
          exact ⟨0, tally.cleared step clears⟩
        · refine ⟨calls, tally.other step ?_ ?_⟩
          · exact fun pass isPolicy about => called ⟨pass, isPolicy, about⟩
          · exact fun pass turn isTurn clears => cleared ⟨pass, turn, isTurn, clears⟩

theorem Clears.eq {other : Subject} (clears : operation.Clears settings pass subject)
    (also : operation.Clears settings pass other) : subject = other := by
  rcases clears with ⟨course, now, there, _, about, _⟩
  rcases also with ⟨same, later, found, _, aboutOther, _⟩
  exact IsOver.eq ⟨course, there, about⟩ ⟨same, found, aboutOther⟩

/-- The count of an object is the number of calls of the error policy, or the largest one. -/
theorem Tally.count_eq (tally : Tally settings subject operation calls) (plain : operation.Plain)
    (plainOwn : '/' ∉ subject.namespaceName.toList) :
    operation.operator.failures.count subject.failureKey = Nat.min calls maxFailures := by
  induction tally with
  | start store => rfl
  | @called before after calls pass tally step about ih =>
      have counted := ih (step.plain plain)
      rcases step.counts with ⟨course, error, there, _, counts⟩
      rcases about with ⟨also, found, rfl⟩
      cases there.symm.trans found
      rw [counts, FailureCounts.count_record, if_pos rfl, counted]
      show min (min calls maxFailures + 1) maxFailures = min (calls + 1) maxFailures
      omega
  | @cleared before after calls pass turn tally step clears ih =>
      rcases step.clears_or_keeps tally.reachable with ⟨target, _, also, forgets⟩ | ⟨never, _⟩
      · rw [forgets, clears.eq also, FailureCounts.count_reset, if_pos rfl]
        exact (Nat.zero_min maxFailures).symm
      · exact absurd clears (never subject)
  | @other before after calls occurrence tally step uncalled uncleared ih =>
      have counted := ih (step.plain plain)
      cases occurrence with
      | policy pass =>
          rcases step.counts with ⟨course, error, there, _, counts⟩
          have about : before.IsOver pass course.subject := ⟨course, there, rfl⟩
          have apart := about.failureKey_ne (step.plain plain) plainOwn (uncalled pass rfl)
          rw [counts, FailureCounts.count_record, if_neg apart, counted]
      | happened event =>
          cases event with
          | turn pass turn =>
              rcases step.clears_or_keeps tally.reachable with ⟨target, about, clears, forgets⟩ |
                ⟨_, keeps⟩
              · have notOver : ¬ before.IsOver pass subject := by
                  intro isOver
                  rw [about.eq isOver] at clears
                  exact uncleared pass turn rfl clears
                have apart := about.failureKey_ne (step.plain plain) plainOwn notOver
                rw [forgets, FailureCounts.count_reset, if_neg apart, counted]
              · rw [keeps, counted]
          | outside =>
              cases step
              exact counted
          | began pass =>
              cases step
              exact counted

/-! ### Passes that only the user can help -/

/-- What has ended stays as it is. -/
theorem Step.has_of_ended {property : Instant → Course → Prop}
    (step : Step settings before occurrence after) (has : before.Has pass property)
    (ended : ∀ now course, property now course → ∃ result, course.rest = .done result) :
    after.Has pass property := by
  rcases has with ⟨course, now, there, began, holds⟩
  have inside := (List.getElem?_eq_some_iff.mp there).1
  have since := (List.getElem?_eq_some_iff.mp began).1
  cases step with
  | outside change => exact ⟨course, now, there, began, holds⟩
  | policy found failed fresh => exact ⟨course, now, there, began, holds⟩
  | begin subject later =>
      exact ⟨course, now, (List.getElem?_append_left inside).trans there,
        (List.getElem?_append_left since).trans began, holds⟩
  | turn step =>
      cases step with
      | @turn taker earlier later _ store found takes =>
          refine ⟨course, now, ?_, began, holds⟩
          rw [List.getElem?_set]
          split
          · rename_i same
            subst same
            cases there.symm.trans found
            rcases ended now course holds with ⟨result, isDone⟩
            exact absurd isDone (takes.rest_ne_done result)
          · exact there

theorem Leads.has_of_ended {property : Instant → Course → Prop}
    (leads : Leads settings before after) (has : before.Has pass property)
    (ended : ∀ now course, property now course → ∃ result, course.rest = .done result) :
    after.Has pass property := by
  induction leads with
  | refl => exact has
  | step leads step ih => exact step.has_of_ended ih ended

theorem Leads.reachable (leads : Leads settings before after)
    (reachable : Reachable settings before) : Reachable settings after := by
  induction leads with
  | refl => exact reachable
  | step leads step ih => exact ih.step step

theorem Has.and {property other : Instant → Course → Prop} (has : operation.Has pass property)
    (also : operation.Has pass other) :
    operation.Has pass fun now course => property now course ∧ other now course := by
  rcases has with ⟨course, now, there, began, holds⟩
  rcases also with ⟨same, later, found, stillBegan, alsoHolds⟩
  cases there.symm.trans found
  cases began.symm.trans stillBegan
  exact ⟨course, now, there, began, holds, alsoHolds⟩

/-- A pass that stops for an error that only the user can mend does not fail. -/
theorem Reachable.not_failed (reachable : Reachable settings operation)
    (blocks : operation.Blocks settings pass) {error : Error}
    (failed : operation.Has pass fun _ course => course.rest = .done (.error error)) : False := by
  rcases blocks.and failed with ⟨course, now, there, began,
    ⟨outcome, written, own, closes, settled, permanent⟩, ended⟩
  rcases reachable.enacts there with ⟨also, past, stillBegan, goes⟩
  cases began.symm.trans stillBegan
  have trace := (goes.2 [] (.error error) (by simp [ended, Scripted])).trace
  rw [List.append_nil, goes.1] at trace
  rcases ends_of_trace trace with ⟨_, _, never⟩ | ⟨spared, _⟩ | ⟨result, store, again, isResult⟩
  · exact never outcome written closes
  · exact spared.not_closes closes
  · rcases closes.unique again with ⟨rfl, rfl⟩
    rw [settled, conclusion, if_pos permanent] at isResult
    cases isResult

/-- A pass that ends without an error has ended well, or has stopped for an error that only the user
can mend. -/
theorem Reachable.clears_or_blocks (reachable : Reachable settings operation)
    (ended : operation.Has pass fun _ course => ∃ action, course.rest = .done (.ok action)) :
    (∃ subject, operation.Clears settings pass subject) ∨ operation.Blocks settings pass := by
  rcases ended with ⟨course, now, there, began, action, ended⟩
  rcases reachable.enacts there with ⟨also, past, stillBegan, goes⟩
  cases began.symm.trans stillBegan
  have clears (succeeds : course.subject.Succeeds settings now course.history.reverse) :
      ∃ subject, operation.Clears settings pass subject :=
    ⟨course.subject, course, now, there, began, rfl, ⟨action, ended⟩, succeeds⟩
  have trace := (goes.2 [] (.ok action) (by simp [ended, Scripted])).trace
  rw [List.append_nil, goes.1] at trace
  rcases ends_of_trace trace with ⟨_, ⟨⟩, _⟩ | ⟨spared, _⟩ | ⟨outcome, written, closes, isResult⟩
  · exact .inl (clears (.inl spared))
  · cases settled : settle outcome (written.getD (.ok ())) with
    | ok good => exact .inl (clears (closes.succeeds_iff.mpr ⟨good, settled⟩))
    | error error =>
        refine .inr ⟨course, now, there, began, outcome, written, error, closes, settled, ?_⟩
        rw [settled, conclusion] at isResult
        split at isResult
        · assumption
        · cases isResult

/-- A pass that stops for an error that only the user can mend changes no count in any of its steps,
and it is never handed to the error policy. -/
theorem Step.keeps_of_blocks (step : Step settings before occurrence after)
    (reachable : Reachable settings before) (isOf : occurrence.IsOf pass) {finish : Operation}
    (leads : Leads settings after finish) (blocks : finish.Blocks settings pass) :
    occurrence ≠ .policy pass ∧ after.operator.failures = before.operator.failures := by
  have reached := leads.reachable (reachable.step step)
  cases occurrence with
  | policy taken =>
      cases isOf
      rcases step.counts with ⟨course, error, there, failed, _⟩
      rcases reachable.enacts there with ⟨now, past, began, _⟩
      have has : before.Has pass fun _ course => course.rest = .done (.error error) :=
        ⟨course, now, there, began, failed⟩
      have ended (now : Instant) (course : Course) (failed : course.rest = .done (.error error)) :
          ∃ result, course.rest = .done result := ⟨_, failed⟩
      have later := leads.has_of_ended (step.has_of_ended has ended) ended
      exact (reached.not_failed blocks later).elim
  | happened event =>
      refine ⟨by simp, ?_⟩
      cases event with
      | outside => cases isOf
      | began other => cases isOf
      | turn taker turn =>
          cases isOf
          rcases step.clears_or_keeps reachable with ⟨subject, _, clears, _⟩ | ⟨_, keeps⟩
          · have later := leads.has_of_ended clears fun now course ended =>
              ⟨_, ended.2.1.choose_spec⟩
            rcases later.and blocks with ⟨course, now, _, _, ⟨_, _, succeeds⟩, blocked⟩
            exact absurd succeeds blocked.not_succeeds
          · exact keeps

end Steps

/-! ### A cluster with a port that does not exist -/

/-- The pass over the cluster, before its first step. -/
def misportedCourse : Course :=
  { subject := .cluster Cluster.misported.key,
    rest := (Subject.cluster Cluster.misported.key).program {} default }

/-- The pass over the cluster has begun. -/
def misported : Operation :=
  { situation :=
      { store := (({} : Store).insertCluster .misported).2, courses := [misportedCourse] },
    times := [default] }

theorem reachable_misported : Reachable {} misported :=
  .step (.start _) (.begin _ (.cluster Cluster.misported.key) default)

/-- If the cluster cannot be read, the pass is handed to the error policy. -/
theorem exists_tally_misported : ∃ operation,
    Tally {} (.cluster Cluster.misported.key) operation 1 ∧ operation.Plain := by
  let refused : Error := .serialization "refused"
  let request : Request := .store (.getCluster Cluster.misported.key)
  let failed : Course :=
    { misportedCourse with
      history := [.answered request (.error refused)], rest := .done (.error refused) }
  let unread : Operation :=
    { misported with situation := { misported.situation with courses := [failed] } }
  have awaits : misportedCourse.rest.Awaits request _ := .call _ _
  have takes : misportedCourse.Takes misported.situation.store _ failed misported.situation.store :=
    .fault awaits refused (.undone _ _)
  have reads : Step {} misported (.happened (.turn 0 _)) unread := .turn (.turn rfl takes)
  have there : unread.situation.courses[0]? = some failed := rfl
  have hands : Step {} unread (.policy 0) _ := .policy there rfl List.not_mem_nil
  have tally : Tally {} (.cluster Cluster.misported.key) unread 0 := by
    refine .other (.other (.start _) (.begin _ (.cluster Cluster.misported.key) default) ?_ ?_)
      reads ?_ ?_
    · rintro pass ⟨⟩
    · rintro pass turn ⟨⟩
    · rintro pass ⟨⟩
    · rintro pass turn ⟨⟩ ⟨course, now, there, began, about, ⟨action, ended⟩, succeeds⟩
      cases there
      cases ended
  refine ⟨_, .called tally hands ⟨failed, rfl, rfl⟩, ?_⟩
  intro course there
  cases List.mem_singleton.mp there
  decide

/-- If the cluster is read, the pass stops and says so in the status of the cluster. -/
theorem exists_blocks_misported : ∃ turn after finish,
    Step {} misported (.happened (.turn 0 turn)) after ∧ Leads {} after finish ∧
      finish.Blocks {} 0 := by
  let read := misported.situation.advance .obliging 0
  let told := read.advance .obliging 0
  have looks : misported.situation.Step (.turn 0 _) read :=
    Situation.step_advance .obliging rfl rfl
  have writes : read.Step (.turn 0 _) told := Situation.step_advance .obliging rfl rfl
  have reads : Step {} misported (.happened (.turn 0 _)) _ := .turn looks
  have tells : Step {} { misported with situation := read } (.happened (.turn 0 _)) _ :=
    .turn writes
  have blocks : Blocks {} { misported with situation := told } 0 :=
    ⟨_, default, rfl, rfl, .error _, some _, _,
      .cluster rfl (trace_follow .misported (clusterBody {} default Cluster.misported.key _))
        (.wrote rfl _), rfl, rfl⟩
  exact ⟨_, _, _, reads, .step .refl tells, blocks⟩

/-- The failures that are counted of an object are the calls of the error policy since the last pass
over it that ended well, up to the largest count. From them comes a delay, which is the doubled one
times the random factor to the nearest nanosecond, and never more than the longest one. There are
such calls in every run. Every pass that ends without an error has ended well or has stopped for an
error that only the user can mend; one that has stopped changes no count and is never handed to the
error policy. Clusters and namespaces have no count in common. The doubled delays do not decrease,
and the random factor keeps within a half of them. -/
theorem delay_of_failures :
    (∀ settings subject operation calls, Tally settings subject operation calls →
      operation.Plain → '/' ∉ subject.namespaceName.toList →
      operation.operator.failures.count subject.failureKey = Nat.min calls maxFailures ∧
      ∀ (longest : Nat) (bounded : longest < UInt64.size) (factor : ℚ),
        1 / 2 ≤ factor → factor < 3 / 2 → ∃ span,
        (BackoffPolicy.doubling longest bounded).requeueDelay? exactSeconds factor
            (operation.operator.failures.count subject.failureKey) = some span ∧
          |exactSeconds.ofDuration span - min (doubled longest calls * factor) longest| ≤
            1 / 2_000_000_000) ∧
    (∀ settings operation, Reachable settings operation →
      ∀ subject, ∃ calls, Tally settings subject operation calls) ∧
    (∀ settings operation pass, Reachable settings operation →
      operation.Has pass (fun _ course => ∃ action, course.rest = .done (.ok action)) →
      (∃ subject, operation.Clears settings pass subject) ∨ operation.Blocks settings pass) ∧
    (∀ settings before occurrence after finish pass, Reachable settings before →
      Step settings before occurrence after → occurrence.IsOf pass →
      Leads settings after finish → finish.Blocks settings pass →
      occurrence ≠ .policy pass ∧ after.operator.failures = before.operator.failures) ∧
    (∀ key other, (Subject.cluster key).failureKey ≠ (Subject.ns other).failureKey) ∧
    ∀ longest failures, (∀ more, failures ≤ more → doubled longest failures ≤ doubled longest more) ∧
      ∀ factor, 1 / 2 ≤ factor → factor < 3 / 2 →
        1 / 2 * doubled longest failures ≤ min (doubled longest failures * factor) longest ∧
          min (doubled longest failures * factor) longest ≤
            min (3 / 2 * doubled longest failures) longest := by
  refine ⟨?_, fun settings operation reachable => reachable.exists_tally,
    fun settings operation pass reachable => reachable.clears_or_blocks, ?_,
    Subject.failureKey_cluster_ne_ns, ?_⟩
  · intro settings subject operation calls tally plain plainOwn
    have counted := tally.count_eq plain plainOwn
    refine ⟨counted, fun longest bounded factor least most => ?_⟩
    rw [counted, ← doubled_count]
    exact requeueDelay?_doubling bounded least most
  · intro settings before occurrence after finish pass reachable step isOf leads blocks
    exact step.keeps_of_blocks reachable isOf leads blocks
  · intro longest failures
    exact ⟨fun more => doubled_mono, fun factor => doubled_mul_bounds⟩

/-- The first pass over a cluster cannot read it and is handed to the error policy, and half a
second is waited. The second one finds a port that does not exist, and changes no count. -/
theorem delay_of_misported :
    let subject := Subject.cluster Cluster.misported.key
    (∃ operation, Tally {} subject operation 1 ∧
      operation.operator.failures.count subject.failureKey = 1 ∧ ∃ span,
        (BackoffPolicy.doubling 300 (by decide)).requeueDelay? exactSeconds 1 1 = some span ∧
          |exactSeconds.ofDuration span - 1 / 2| ≤ 1 / 2_000_000_000) ∧
    ∃ before after turn finish, Step {} before (.happened (.turn 0 turn)) after ∧
      Leads {} after finish ∧ finish.Blocks {} 0 ∧
      after.operator.failures = before.operator.failures := by
  intro subject
  constructor
  · rcases exists_tally_misported with ⟨operation, counted, plain⟩
    rcases delay_of_failures.1 {} subject _ 1 counted plain (by decide) with ⟨isOne, delays⟩
    have count : Nat.min 1 maxFailures = 1 := rfl
    rw [isOne, count] at delays
    rcases delays 300 (by decide) 1 (by norm_num) (by norm_num) with ⟨span, isDelay, near⟩
    refine ⟨operation, counted, isOne, span, isDelay, ?_⟩
    have half : min (doubled 300 1 * 1) ((300 : Nat) : ℚ) = 1 / 2 := by
      norm_num [doubled]
    rwa [half] at near
  · rcases exists_blocks_misported with ⟨turn, after, finish, reads, leads, blocks⟩
    have kept := delay_of_failures.2.2.2.1 {} misported _ after finish 0 reachable_misported reads
      rfl leads blocks
    exact ⟨misported, after, turn, finish, reads, leads, blocks, kept.2⟩

end Operation

end ClusterOperator
