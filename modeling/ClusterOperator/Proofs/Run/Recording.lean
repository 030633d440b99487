import ClusterOperator.Proofs.Run.Entry

/-!
# What the conditions tell after a run

A pass that succeeds or fails records that in the conditions of its object, and its record counts
once the patch for it is stored, or from when the object was read where there is nothing to write.
As long as nobody else edits the status, the conditions tell what was recorded last, however the
passes come to their outcomes and whatever becomes of their other requests.
-/

namespace ClusterOperator

open Program Condition

namespace Situation

/-- Others leave the status of a custom resource as it is, and do not create the resource anew. -/
def Unedited (subject : Subject) (before : Situation) (event : Event) (after : Situation) : Prop :=
  event = .outside → ∀ held, subject.stored? after.store = some held →
    ∃ earlier, subject.stored? before.store = some earlier ∧ held.status = earlier.status

/-- A pass over a resource, with all that it asked and what came of it, ends with a patch, and the
store takes that. -/
inductive Stores (subject : Subject) (calls : List Exchange) (outcome : Except Error Outcome) :
    Situation → Event → Situation → Prop
  | patch {before after : Situation} {pass : Nat} {turn : Turn} {request : StoreRequest}
      {course : Course} {settings : Settings} {now : Instant} {answer : Except Error Unit}
      (there : after.courses[pass]? = some course) (about : course.subject = subject)
      (whole : course.history.reverse = calls) (asked : turn.request? = some (.store request))
      (accepted : ∃ value, (before.store.answer request).1 = .ok value)
      (becomes : after.store = (before.store.answer request).2)
      (closes : subject.Closes settings now calls outcome (some answer)) :
      Stores subject calls outcome before (.turn pass turn) after

/-- What came of a pass counts from the step in which the store takes the patch for it, or else,
where the pass ends with nothing to write, from the step in which it read its resource. -/
inductive Counts (subject : Subject) (outcome : Except Error Outcome) (finish : Situation) :
    Situation → Event → Situation → Prop
  | stored {before after : Situation} {event : Event} {calls : List Exchange}
      (stores : Stores subject calls outcome before event after) :
      Counts subject outcome finish before event after
  | unneeded {before after : Situation} {pass : Nat} {exchange : Exchange} {held : CustomResource}
      {course : Course} {settings : Settings} {now : Instant} {result : Except Error Action}
      (reads : exchange.Reads subject held) (there : finish.courses[pass]? = some course)
      (about : course.subject = subject) (ended : course.rest = .done result)
      (closes : subject.Closes settings now course.history.reverse outcome none) :
      Counts subject outcome finish before (.turn pass (.exchanged exchange)) after

/-- A run in which nobody else edits the status of a resource, with the outcome that was recorded
last in it. -/
inductive Chronicle (subject : Subject) (finish start : Situation) :
    List Event → Situation → Option (Except Error Outcome) → Prop
  | start : Chronicle subject finish start [] start none
  | silent {events : List Event} {middle next : Situation} {event : Event}
      {latest : Option (Except Error Outcome)}
      (chronicle : Chronicle subject finish start events middle latest)
      (step : Step middle event next) (unedited : Unedited subject middle event next)
      (silent : ∀ outcome, IsRecorded outcome →
        ¬ Counts subject outcome finish middle event next) :
      Chronicle subject finish start (events ++ [event]) next latest
  | recorded {events : List Event} {middle next : Situation} {event : Event}
      {latest : Option (Except Error Outcome)} {outcome : Except Error Outcome}
      (chronicle : Chronicle subject finish start events middle latest)
      (step : Step middle event next) (unedited : Unedited subject middle event next)
      (recorded : IsRecorded outcome) (counts : Counts subject outcome finish middle event next) :
      Chronicle subject finish start (events ++ [event]) next (some outcome)

/-- What the conditions of a resource say where this was recorded last, or nothing. -/
def Says (latest : Option (Except Error Outcome)) (conditions : List Condition) : Prop :=
  (∀ outcome, latest = some outcome → Tell conditions outcome) ∧
    (latest = none → find? successType conditions = none ∧ find? errorType conditions = none)

section Steps

variable {before after : Situation} {event : Event} {course later : Course} {turn : Turn}
  {laterStore : Store} {settings : Settings} {now : Instant} {subject : Subject}
  {held : CustomResource} {pass : Nat} {finish : Situation} {outcome : Except Error Outcome}

/-- A pass leaves the status of a resource as it is, or enters what came of it. -/
theorem Reachable.entry_of_takes (reachable : Reachable before) (there : course ∈ before.courses)
    (takes : course.Takes before.store turn later laterStore)
    (along : course.Along (course.subject.program settings now))
    (stored : subject.stored? laterStore = some held) :
    ∃ earlier, subject.stored? before.store = some earlier ∧
      (held.status = earlier.status ∨
        subject = course.subject ∧ ∃ request outcome answer, IsRecorded outcome ∧
          course.Amends turn before.store laterStore earlier request ∧
          subject.Closes settings now later.history.reverse outcome (some answer) ∧
          earlier.Enters held outcome) := by
  rcases reachable.amends_of_changed there takes subject with same | ⟨rfl, earlier, request, amends⟩
  · rw [same] at stored
    exact ⟨held, stored, .inl rfl⟩
  refine ⟨earlier, amends.stored, ?_⟩
  cases patches : (Request.store request).isPatch with
  | false => exact .inl (amends.status_eq patches stored)
  | true =>
      have goes := takes.along along
      rw [← takes.subject_eq] at goes
      rcases takes.closes_of_patch goes amends.asked patches with ⟨outcome, answer, closes⟩
      rw [takes.subject_eq] at closes
      have follows := (reachable.course_keeps there).follows
      have enters := (amends.replaces takes follows closes stored).enters
      cases recorded : IsRecorded outcome with
      | false => exact .inl (enters.unrecorded recorded)
      | true => exact .inr ⟨rfl, request, outcome, answer, recorded, amends, closes, enters⟩

/-- In a step in which nobody else edits the status, it stays as it is, or a pass stores it. -/
theorem Step.entry (step : Step before event after) (reachable : Reachable before)
    (unedited : Unedited subject before event after)
    (stored : subject.stored? after.store = some held) :
    ∃ earlier, subject.stored? before.store = some earlier ∧
      (held.status = earlier.status ∨ ∃ outcome calls, IsRecorded outcome ∧
        Stores subject calls outcome before event after) := by
  cases step with
  | outside change =>
      rcases unedited rfl held stored with ⟨earlier, isThere, same⟩
      exact ⟨earlier, isThere, .inl same⟩
  | begin about settings now => exact ⟨held, stored, .inl rfl⟩
  | @turn pass course later turn store found takes =>
      have there := List.mem_of_getElem? found
      have inside := (List.getElem?_eq_some_iff.mp found).1
      rcases reachable.along there with ⟨settings, now, along⟩
      rcases reachable.entry_of_takes there takes along stored with ⟨earlier, isThere, entry⟩
      refine ⟨earlier, isThere, entry.imp id ?_⟩
      rintro ⟨rfl, request, outcome, answer, recorded, amends, closes, enters⟩
      refine ⟨outcome, later.history.reverse, recorded, ?_⟩
      exact .patch (List.getElem?_set_self inside) takes.subject_eq rfl amends.asked amends.accepted
        amends.becomes closes

theorem Stores.exists_amends {calls : List Exchange}
    (stores : Stores subject calls outcome before event after) (step : Step before event after)
    (reachable : Reachable before) :
    ∃ (pass : Nat) (course later : Course) (turn : Turn) (held : CustomResource)
      (request : StoreRequest) (settings : Settings) (now : Instant) (answer : Except Error Unit),
      before.courses[pass]? = some course ∧ course.subject = subject ∧
      course.Takes before.store turn later after.store ∧
      course.Amends turn before.store after.store held request ∧
      later.history.reverse = calls ∧
      subject.Closes settings now calls outcome (some answer) := by
  cases stores with
  | patch there about whole asked accepted becomes closes =>
      cases step with
      | turn found takes =>
          have inside := (List.getElem?_eq_some_iff.mp found).1
          cases (List.getElem?_set_self inside).symm.trans there
          rcases takes.asked asked with ⟨last, isLast, history⟩
          rcases accepted with ⟨value, accepted⟩
          have ends := closes
          rw [← whole, history, List.reverse_cons] at ends
          rcases ends.exists_overwrites with ⟨request, version, isRequest, writes⟩
          cases isLast.symm.trans isRequest
          have among := List.mem_of_getElem? found
          rcases reachable.amends_of_accepted among takes asked writes accepted becomes with
            ⟨rfl, earlier, amends⟩
          exact ⟨_, _, _, _, earlier, _, _, _, _, found, rfl, takes, amends, whole, closes⟩

theorem Stores.unedited {subject : Subject} {calls : List Exchange}
    {outcome : Except Error Outcome} {before after : Situation} {event : Event}
    (stores : Stores subject calls outcome before event after) :
    Unedited subject before event after := by
  cases stores with
  | patch there about whole asked accepted becomes closes => rintro ⟨⟩

theorem Stores.replaces {calls : List Exchange}
    (stores : Stores subject calls outcome before event after) (step : Step before event after)
    (reachable : Reachable before) (stored : subject.stored? after.store = some held) :
    ∃ settings now earlier, subject.stored? before.store = some earlier ∧
      subject.Replaces settings now calls outcome earlier held := by
  rcases stores.exists_amends step reachable with
    ⟨pass, course, later, turn, earlier, request, _, _, _, found, rfl, takes, amends, rfl, closes⟩
  have follows := (reachable.course_keeps (List.mem_of_getElem? found)).follows
  exact ⟨_, _, earlier, amends.stored, amends.replaces takes follows closes stored⟩

/-- Where a pass has something to record and nothing to write, its object tells it already. -/
theorem tell_of_closes {exchange : Exchange} (recorded : IsRecorded outcome)
    (follows : course.history.Follows course.subject.Asks) (read : exchange ∈ course.history)
    (reads : exchange.Reads course.subject held)
    (closes : course.subject.Closes settings now course.history.reverse outcome none) :
    Tell held.conditions outcome := by
  generalize course.subject = subject at follows reads closes
  generalize isHistory : course.history.reverse = calls at closes
  cases closes with
  | @cluster key known changed outcome _ body _ alive goes closing =>
      have also : _ ∈ course.history :=
        List.mem_reverse.mp (isHistory ▸ List.mem_cons_self ..)
      cases follows.reads_unique read reads also (.cluster key known)
      cases closing with
      | idle nothing => exact Resource.tell_of_isEmpty recorded nothing
  | @ns key known changed outcome _ body _ goes closing =>
      have also : _ ∈ course.history :=
        List.mem_reverse.mp (isHistory ▸ List.mem_cons_self ..)
      cases follows.reads_unique read reads also (.ns key known)
      cases closing with
      | idle nothing => exact Resource.tell_of_isEmpty recorded nothing

theorem Counts.tell (counts : Counts subject outcome finish before event after)
    (step : Step before event after) (reachable : Reachable before)
    (leads : ∃ events, Run (fun _ _ _ => True) after events finish)
    (recorded : IsRecorded outcome) (stored : subject.stored? after.store = some held) :
    ∃ earlier, subject.stored? before.store = some earlier ∧ Tell held.conditions outcome ∧
      (Distinct earlier.conditions → Distinct held.conditions) := by
  cases counts with
  | stored stores =>
      rcases stores.replaces step reachable stored with ⟨_, _, earlier, isThere, replaces⟩
      have enters := replaces.enters
      exact ⟨earlier, isThere, enters.tells recorded, enters.distinct⟩
  | unneeded reads there about ended closes =>
      -- The pass ends later, but what it records is then about the object as this step reads it.
      have reached := reachable.step step
      cases step with
      | turn found takes =>
          have inside := (List.getElem?_eq_some_iff.mp found).1
          rcases leads with ⟨events, run⟩
          rcases takes.stored_of_reads reads with ⟨rfl, isThere⟩
          cases isThere.symm.trans stored
          rcases run.course_of (List.getElem?_set_self inside) with ⟨last, isLast, _, suffix⟩
          cases there.symm.trans isLast
          subst about
          have follows :=
            ((run.reachable reached).course_keeps (List.mem_of_getElem? isLast)).follows
          have read := suffix.subset takes.exchanged_mem
          exact ⟨held, isThere, tell_of_closes recorded follows read reads closes, id⟩

end Steps

/-! ### Runs -/

section Runs

variable {subject : Subject} {start middle finish : Situation} {events : List Event}
  {latest : Option (Except Error Outcome)} {held : CustomResource}

theorem Chronicle.run (chronicle : Chronicle subject finish start events middle latest) :
    Run (Unedited subject) start events middle := by
  induction chronicle with
  | start => exact .refl
  | silent chronicle step unedited silent ih => exact ih.step step unedited
  | recorded chronicle step unedited recorded counts ih => exact ih.step step unedited

/-- Every run has something that was recorded last in it, or nothing was. -/
theorem Run.exists_chronicle (run : Run (Unedited subject) start events middle)
    (finish : Situation) :
    ∃ latest, Chronicle subject finish start events middle latest := by
  induction run with
  | refl => exact ⟨none, .start⟩
  | @step middle next events event run step unedited ih =>
      rcases ih with ⟨latest, chronicle⟩
      by_cases counts : ∃ outcome, IsRecorded outcome ∧
        Counts subject outcome finish middle event next
      · rcases counts with ⟨outcome, recorded, counts⟩
        exact ⟨some outcome, chronicle.recorded step unedited recorded counts⟩
      · refine ⟨latest, chronicle.silent step unedited fun outcome recorded isCounted => ?_⟩
        exact counts ⟨outcome, recorded, isCounted⟩

theorem Chronicle.says (chronicle : Chronicle subject finish start events middle latest)
    (reachable : Reachable start)
    (fresh : ∀ held, subject.stored? start.store = some held → held.conditions = [])
    (leads : ∃ events, Run (fun _ _ _ => True) middle events finish)
    (stored : subject.stored? middle.store = some held) :
    Distinct held.conditions ∧ Says latest held.conditions := by
  -- By induction on the run. What counts in its middle is known only from its end, so that end
  -- stays the same, and the way to it grows by the step that is taken off.
  induction chronicle generalizing held with
  | start =>
      rw [fresh held stored]
      refine ⟨distinct_nil, ?_, fun _ => ⟨rfl, rfl⟩⟩
      rintro outcome ⟨⟩
  | @silent events middle next event latest chronicle step unedited silent ih =>
      rcases leads with ⟨further, run⟩
      have leads : ∃ events, Run (fun _ _ _ => True) middle events finish :=
        ⟨_, (Run.step .refl step trivial).trans run⟩
      rcases step.entry (chronicle.run.reachable reachable) unedited stored with
        ⟨earlier, isThere, same | ⟨outcome, calls, recorded, stores⟩⟩
      · rw [CustomResource.conditions_of_status_eq same]
        exact ih leads isThere
      · exact absurd (.stored stores) (silent outcome recorded)
  | @recorded events middle next event latest outcome chronicle step unedited recorded counts ih =>
      have reached := chronicle.run.reachable reachable
      rcases counts.tell step reached leads recorded stored with ⟨earlier, isThere, tells, distinct⟩
      rcases leads with ⟨further, run⟩
      have leads : ∃ events, Run (fun _ _ _ => True) middle events finish :=
        ⟨_, (Run.step .refl step trivial).trans run⟩
      refine ⟨distinct (ih leads isThere).1, ?_, ?_⟩
      · rintro also ⟨⟩
        exact tells
      · rintro ⟨⟩

/-- A pass leaves its object alone, or comes to an outcome that is not recorded. -/
def Unrecorded (settings : Settings) (now : Instant) (subject : Subject) (calls : List Exchange) :
    Prop :=
  subject.Spared calls ∨ ∃ outcome written,
    subject.Closes settings now calls outcome written ∧ IsRecorded outcome = false

theorem Unrecorded.not_recorded {settings : Settings} {now : Instant} {calls more : List Exchange}
    {outcome : Except Error Outcome} {answer : Except Error Unit}
    (unrecorded : Unrecorded settings now subject (calls ++ more))
    (closes : subject.Closes settings now calls outcome (some answer)) :
    IsRecorded outcome = false := by
  rcases unrecorded with spared | ⟨also, written, again, unrecorded⟩
  · have atLeast : 2 ≤ calls.length := by
      cases closes with
      | cluster alive goes closing =>
          cases closing
          simp
      | ns goes closing =>
          cases closing
          simp
    have single : (calls ++ more).length = 1 := by
      generalize calls ++ more = whole at spared
      cases spared <;> rfl
    rw [List.length_append] at single
    omega
  · rw [closes.outcome_eq again]
    exact unrecorded

/-- A pass that leaves its object alone, or comes to nothing that is recorded, leaves the status of
every resource as it is, in each of its steps. -/
theorem Run.status_eq_of_unrecorded {rule : Situation → Event → Situation → Prop}
    {first before after : Situation} {earlier further : List Event} {pass : Nat} {turn : Turn}
    {begun course : Course} {settings : Settings} {now : Instant} {target : Subject}
    (reachable : Reachable start) (begins : Step start (.began pass) first)
    (fresh : first.courses[pass]? = some begun)
    (program : begun.rest = begun.subject.program settings now)
    (leads : Run rule first earlier before) (step : Step before (.turn pass turn) after)
    (run : Run rule after further finish) (there : finish.courses[pass]? = some course)
    (unrecorded : Unrecorded settings now course.subject course.history.reverse)
    (stored : target.stored? after.store = some held) :
    ∃ known, target.stored? before.store = some known ∧ held.status = known.status := by
  have untaken : begun.history = [] := by
    cases begins with
    | begin about settings now =>
        simp only [List.getElem?_concat_length, Option.some.injEq] at fresh
        rw [← fresh]
  rcases leads.along fresh (Course.along_begun untaken program) with ⟨taker, found, about, along⟩
  cases step with
  | turn isTaker takes =>
      cases found.symm.trans isTaker
      have inside := (List.getElem?_eq_some_iff.mp isTaker).1
      rw [← about] at along
      have reached := leads.reachable (reachable.step begins)
      rcases reached.entry_of_takes (List.mem_of_getElem? isTaker) takes along stored with
        ⟨known, isThere, same | ⟨rfl, request, outcome, answer, recorded, amends, closes, _⟩⟩
      · exact ⟨known, isThere, same⟩
      · rcases run.course_of (List.getElem?_set_self inside)
          with ⟨last, isLast, still, more, longer⟩
        cases there.symm.trans isLast
        rw [still, takes.subject_eq, ← longer, List.reverse_append] at unrecorded
        rw [unrecorded.not_recorded closes] at recorded
        cases recorded

end Runs

end Situation

/-- What servers answer, and a store that nothing is written to. -/
def Servers.replies (servers : Servers) (store : Store) : Replies := fun request =>
  match servers.answer store request with
  | none => .error (.serialization "no answer")
  | some (answer, _) => answer

namespace Situation

theorem stores_of_payments :
    let key := Namespace.payments.key
    let before := (ofObjects .prod .payments).advances .obliging 0 7
    let after := (ofObjects .prod .payments).advances .obliging 0 8
    ∃ event calls, Step before event after ∧
      Stores (.ns key) calls (.ok .success) before event after := by
  intro key before after
  obtain ⟨course, there, about, closes⟩ : ∃ course, after.courses[0]? = some course ∧
      course.subject = .ns key ∧
      Subject.Closes {} default (.ns key) course.history.reverse (.ok .success)
        (some (.ok ())) := by
    refine ⟨_, rfl, rfl, ?_⟩
    let replies := Servers.obliging.replies (ofObjects .prod .payments).store
    exact .ns (trace_follow replies (namespaceBody {} default key _)) (.wrote rfl _)
  exact ⟨_, _, step_advance .obliging rfl rfl, .patch there about rfl rfl ⟨(), rfl⟩ rfl closes⟩

/-- As long as nobody else edits the status of an object that starts without conditions, there is
one condition of each type, and the conditions tell the outcome that was recorded last, or say
nothing about passes before there was one. In every run there is a last one, or none. Passes that
come to nothing that is recorded leave every status as it is. -/
theorem conditions_of_last_recorded_outcome :
    (∀ (subject : Subject) (start finish : Situation) (events : List Event),
      Reachable start →
      (∀ held, subject.stored? start.store = some held → held.conditions = []) →
      Run (Unedited subject) start events finish →
      (∃ latest, Chronicle subject finish start events finish latest) ∧
      ∀ latest held, Chronicle subject finish start events finish latest →
        subject.stored? finish.store = some held →
          Distinct held.conditions ∧ Says latest held.conditions) ∧
    ∀ (rule : Situation → Event → Situation → Prop) (start first before after finish : Situation)
      (earlier further : List Event) (pass : Nat) (turn : Turn) (begun course : Course)
      (settings : Settings) (now : Instant) (target : Subject) (held : CustomResource),
      Reachable start → Step start (.began pass) first → first.courses[pass]? = some begun →
      begun.rest = begun.subject.program settings now →
      Run rule first earlier before → Step before (.turn pass turn) after →
      Run rule after further finish → finish.courses[pass]? = some course →
      Unrecorded settings now course.subject course.history.reverse →
      target.stored? after.store = some held →
        ∃ known, target.stored? before.store = some known ∧ held.status = known.status := by
  constructor
  · intro subject start finish events reachable fresh run
    refine ⟨run.exists_chronicle finish, ?_⟩
    intro latest held chronicle stored
    exact chronicle.says reachable fresh ⟨[], .refl⟩ stored
  · intro rule start first before after finish earlier further pass turn begun course settings now
      target held reachable begins fresh program leads step run there unrecorded stored
    exact leads.status_eq_of_unrecorded reachable begins fresh program step run there unrecorded
      stored

/-- The pass over the namespace records its success, and one that waits for the cluster records
nothing. -/
theorem conditions_of_payments :
    let subject := Subject.ns Namespace.payments.key
    let done := (ofObjects .prod .payments).advances .obliging 0 8
    let waiting := ofObjects .unreported .payments
    (∃ held, subject.stored? done.store = some held ∧ Distinct held.conditions ∧
      Tell held.conditions (.ok .success)) ∧
    ∃ known held, subject.stored? (waiting.advances .obliging 0 2).store = some known ∧
      subject.stored? (waiting.advances .obliging 0 3).store = some held ∧
      held.status = known.status := by
  intro subject done waiting
  constructor
  · have reachable := reachable_ofObjects .prod .payments
    have prepares : ∃ events, Run (Unedited subject) (ofObjects .prod .payments) events
        ((ofObjects .prod .payments).advances .obliging 0 7) :=
      exists_run_advances fun _ _ _ _ => by rintro ⟨⟩
    rcases prepares with ⟨events, prepares⟩
    obtain ⟨stored, isStored, bare⟩ : ∃ stored,
      subject.stored? (ofObjects .prod .payments).store = some (.ns stored) ∧
        stored.conditions = [] := ⟨_, rfl, rfl⟩
    obtain ⟨held, isHeld⟩ : ∃ held, subject.stored? done.store = some held := ⟨_, rfl⟩
    rcases stores_of_payments with ⟨event, calls, patches, stores⟩
    have whole := prepares.step patches stores.unedited
    rcases prepares.exists_chronicle done with ⟨latest, chronicle⟩
    have chronicle := chronicle.recorded patches stores.unedited rfl (.stored stores)
    have told := conditions_of_last_recorded_outcome.1 subject _ done _ reachable ?_ whole
    · rcases told.2 _ held chronicle isHeld with ⟨distinct, tells, _⟩
      exact ⟨held, isHeld, distinct, tells _ rfl⟩
    · intro first isFirst
      cases isStored.symm.trans isFirst
      exact bare
  · have inserted : Step {} .outside { store := (({} : Store).insertCluster .unreported).2 } :=
      .outside (.insertCluster _ _)
    have listed : Step { store := (({} : Store).insertCluster .unreported).2 } .outside
        { store := waiting.store } := .outside (.insertNamespace _ .payments)
    have begins : Step { store := waiting.store } (.began 0) waiting := .begin _ subject {} default
    have reads : ∃ events, Run (fun _ _ _ => True) waiting events
        (waiting.advances .obliging 0 2) := exists_run_advances fun _ _ _ _ => trivial
    rcases reads with ⟨events, reads⟩
    have looks : Step (waiting.advances .obliging 0 2) (.turn 0 _)
        (waiting.advances .obliging 0 3) := step_advance .obliging rfl rfl
    obtain ⟨course, there, unrecorded⟩ : ∃ course,
        (waiting.advances .obliging 0 3).courses[0]? = some course ∧
          Unrecorded {} default course.subject course.history.reverse := by
      refine ⟨_, rfl, .inr ⟨.ok (.requeue Settings.standardInterval), none, ?_, rfl⟩⟩
      let replies := Servers.obliging.replies waiting.store
      exact .ns (trace_follow replies (namespaceBody {} default Namespace.payments.key _))
        (.idle rfl)
    obtain ⟨held, isHeld⟩ : ∃ held,
        subject.stored? (waiting.advances .obliging 0 3).store = some held := ⟨_, rfl⟩
    have reachable := (Reachable.start.step inserted).step listed
    rcases conditions_of_last_recorded_outcome.2 _ _ _ _ _ _ _ _ 0 _ _ _ {} default subject held
      reachable begins rfl rfl reads looks .refl there unrecorded isHeld with ⟨known, isKnown, same⟩
    exact ⟨known, held, isKnown, isHeld, same⟩

end Situation

end ClusterOperator
