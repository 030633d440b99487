import ClusterOperator.Pass.Cluster
import ClusterOperator.Pass.Namespace
import ClusterOperator.Proofs.Program.History
import ClusterOperator.Proofs.Store.Version

/-!
# Runs of the operator

Passes over objects run against a store that others change too. In a situation there is the store,
and there are the passes that have begun, each with what it has asked so far and what is left for it
to do. One step lets one pass go on by one request, begins another pass, or lets others change the
store, so everything can happen between two requests of a pass, other passes over the same object
included.

Servers answer whatever they like, a deadline can strike at every request that is under one, and a
request to the store can fail, with its effect or without it.
-/

namespace ClusterOperator

/-- What a pass is over. -/
inductive Subject where
  | cluster (key : ObjectKey)
  | ns (key : ObjectKey)

/-- The pass over an object. -/
def Subject.program (settings : Settings) (now : Instant) : Subject → Program (Except Error Action)
  | cluster key => (Program.reconcileCluster settings now key).run
  | ns key => (Program.reconcileNamespace settings now key).run

/-- A pass that has begun: what it has asked, and what is left to do. -/
structure Course where
  subject : Subject
  history : History := []
  rest : Program (Except Error Action)

/-- The store and the passes that have begun, in the order in which they did. -/
structure Situation where
  store : Store := {}
  courses : List Course := []

/-- What a pass does in one step. -/
inductive Turn where
  /-- It writes something down for the operator. -/
  | noted
  /-- It makes a request, which is answered or cut by the deadline. -/
  | exchanged (exchange : Exchange)
  /-- It makes a request at which the store fails. -/
  | faulted (exchange : Exchange)

/-- What happens in one step. Passes are known by the order in which they began. -/
inductive Event where
  /-- Others change the store. -/
  | outside
  | began (pass : Nat)
  | turn (pass : Nat) (turn : Turn)

/-- The event is a step of a pass. -/
def Event.IsTurnOf (pass : Nat) : Event → Prop
  | outside => False
  | began _ => False
  | turn taker _ => taker = pass

/-- A program whose next request is the given one, and how it goes on after the answer. -/
inductive Program.Awaits {α : Type} :
    Program α → (request : Request) → (Except Error request.Answer → Program α) → Prop
  | call (request : Request) (next : Except Error request.Answer → Program α) :
      Awaits (.call request next) request next
  | timed (request : Request) (cut : Program α)
      (next : Except Error request.Answer → Program α) :
      Awaits (.timed request cut next) request next

/-- How a request is answered: by the store as it is, and by servers as they like. -/
inductive Answered : (request : Request) → Store → Except Error request.Answer → Store → Prop
  | store (request : StoreRequest) (store : Store) :
      Answered (.store request) store (store.answer request).1 (store.answer request).2
  | connect (cluster : Cluster) (store : Store) (answer : Except Error Unit) :
      Answered (.connect cluster) store answer store
  | server (cluster : Cluster) (request : ServerRequest) (store : Store)
      (answer : Except Error request.Answer) :
      Answered (.server cluster request) store answer store
  | close (cluster : Cluster) (store : Store) (answer : Except Error Unit) :
      Answered (.close cluster) store answer store

/-- What a request without a proper answer has done: what it asks for, or nothing. -/
inductive Attempted : Request → Store → Store → Prop
  | done (request : StoreRequest) (store : Store) :
      Attempted (.store request) store (store.answer request).2
  | undone (request : Request) (store : Store) : Attempted request store store

/-- One step of a pass. -/
inductive Course.Takes : Course → Store → Turn → Course → Store → Prop
  | note {course : Course} {entry : Note} {rest : Program (Except Error Action)} {store : Store}
      (todo : course.rest = .note entry rest) :
      Takes course store .noted { course with rest } store
  | answer {course : Course} {request : Request}
      {next : Except Error request.Answer → Program (Except Error Action)} {store later : Store}
      {answer : Except Error request.Answer} (awaits : course.rest.Awaits request next)
      (answered : Answered request store answer later) :
      Takes course store (.exchanged (.answered request answer))
        { course with history := .answered request answer :: course.history, rest := next answer }
        later
  | fault {course : Course} {request : StoreRequest}
      {next : Except Error request.Answer → Program (Except Error Action)} {store later : Store}
      (awaits : course.rest.Awaits (.store request) next) (error : Error)
      (attempted : Attempted (.store request) store later) :
      Takes course store (.faulted (.answered (.store request) (.error error)))
        { course with
          history := .answered (.store request) (.error error) :: course.history
          rest := next (.error error) }
        later
  | cut {course : Course} {request : Request} {late : Program (Except Error Action)}
      {next : Except Error request.Answer → Program (Except Error Action)} {store later : Store}
      (todo : course.rest = .timed request late next) (attempted : Attempted request store later) :
      Takes course store (.exchanged (.cut request))
        { course with history := .cut request :: course.history, rest := late } later

namespace Situation

/-- One step. -/
inductive Step : Situation → Event → Situation → Prop
  | outside {situation : Situation} {store : Store} (change : situation.store.Change store) :
      Step situation .outside { situation with store }
  | begin (situation : Situation) (subject : Subject) (settings : Settings) (now : Instant) :
      Step situation (.began situation.courses.length)
        { situation with
          courses := situation.courses ++ [{ subject, rest := subject.program settings now }] }
  | turn {situation : Situation} {pass : Nat} {course later : Course} {turn : Turn} {store : Store}
      (there : situation.courses[pass]? = some course)
      (takes : course.Takes situation.store turn later store) :
      Step situation (.turn pass turn) { store, courses := situation.courses.set pass later }

/-- A number of steps that all obey a rule, with what happens in them, the first one first. -/
inductive Run (rule : Situation → Event → Situation → Prop) (start : Situation) :
    List Event → Situation → Prop
  | refl : Run rule start [] start
  | step {middle finish : Situation} {events : List Event} {event : Event}
      (run : Run rule start events middle) (step : Step middle event finish)
      (obeyed : rule middle event finish) : Run rule start (events ++ [event]) finish

theorem Run.mono {rule weaker : Situation → Event → Situation → Prop} {start finish : Situation}
    {events : List Event} (le : ∀ before event after, rule before event after →
      weaker before event after) (run : Run rule start events finish) :
    Run weaker start events finish := by
  induction run with
  | refl => exact .refl
  | step run step obeyed ih => exact ih.step step (le _ _ _ obeyed)

theorem Run.trans {rule : Situation → Event → Situation → Prop} {start middle finish : Situation}
    {events further : List Event} (first : Run rule start events middle)
    (second : Run rule middle further finish) : Run rule start (events ++ further) finish := by
  induction second with
  | refl =>
      rw [List.append_nil]
      exact first
  | step run step obeyed ih =>
      rw [← List.append_assoc]
      exact ih.step step obeyed

/-- A situation that steps from nothing lead to. -/
inductive Reachable : Situation → Prop
  | start : Reachable {}
  | step {before after : Situation} {event : Event} (reachable : Reachable before)
      (step : Step before event after) : Reachable after

theorem Run.reachable {rule : Situation → Event → Situation → Prop} {start finish : Situation}
    {events : List Event} (run : Run rule start events finish) (reachable : Reachable start) :
    Reachable finish := by
  induction run with
  | refl => exact reachable
  | step run step obeyed ih => exact ih.step step

end Situation

end ClusterOperator
