import ClusterOperator.Proofs.Program.History
import ClusterOperator.Proofs.Program.Perform

/-!
# Traces

The ways through a program, from its beginning to a value: the requests that it makes, in their
order, each with what came of it. Where a history says what a program has asked so far, a trace says
all that it asks, so that what it asks can be compared with a description of whole conversations.
-/

namespace ClusterOperator

/-- The beginning of a conversation, up to a request that the deadline left without an answer. -/
def CutShort (talk : List Exchange → Prop) (calls : List Exchange) : Prop :=
  ∃ front request answer back, talk (front ++ .answered request answer :: back) ∧
    calls = front ++ [.cut request]

/-- A conversation that was cut short after its first request is that request and then a
conversation that was cut short. -/
theorem CutShort.cons {talk other : List Exchange → Prop} {calls : List Exchange}
    {exchange : Exchange} (cut : CutShort talk calls)
    (follows : ∀ calls, talk calls → other (exchange :: calls)) :
    CutShort other (exchange :: calls) := by
  rcases cut with ⟨front, request, answer, back, whole, rfl⟩
  exact ⟨exchange :: front, request, answer, back, follows _ whole, rfl⟩

theorem CutShort.mono {talk other : List Exchange → Prop} {calls : List Exchange}
    (cut : CutShort talk calls) (le : ∀ calls, talk calls → other calls) :
    CutShort other calls := by
  rcases cut with ⟨front, request, answer, back, whole, rfl⟩
  exact ⟨front, request, answer, back, le _ whole, rfl⟩

/-- All of a conversation, or its beginning where the deadline strikes. -/
def Deadlined (talk : List Exchange → Prop) (calls : List Exchange) : Prop :=
  talk calls ∨ CutShort talk calls

/-- What is asked before the deadline strikes is asked without one. -/
theorem Deadlined.exists_whole {talk : List Exchange → Prop} {calls : List Exchange}
    (deadlined : Deadlined talk calls) :
    ∃ whole, talk whole ∧
      (∀ request answer, .answered request answer ∈ calls → .answered request answer ∈ whole) ∧
      ∀ exchange ∈ calls, ∃ full ∈ whole, full.request = exchange.request := by
  rcases deadlined with whole | ⟨front, request, answer, back, whole, rfl⟩
  · exact ⟨calls, whole, fun _ _ there => there, fun exchange there => ⟨exchange, there, rfl⟩⟩
  · refine ⟨_, whole, fun asked reply there => ?_, fun exchange there => ?_⟩
    · rcases List.mem_append.mp there with there | there
      · exact List.mem_append_left _ there
      · cases List.mem_singleton.mp there
    · rcases List.mem_append.mp there with there | there
      · exact ⟨exchange, List.mem_append_left _ there, rfl⟩
      · rw [List.mem_singleton.mp there]
        exact ⟨_, List.mem_append_right _ (List.mem_cons_self ..), rfl⟩

namespace Program

variable {α β : Type}

/-- A program comes to a value by these requests, which it makes in this order. -/
def Trace : Program α → List Exchange → α → Prop
  | done value, calls, result => calls = [] ∧ result = value
  | note _ rest, calls, result => Trace rest calls result
  | call request next, calls, result =>
      ∃ answer later, calls = .answered request answer :: later ∧ Trace (next answer) later result
  | timed request cut next, calls, result =>
      (∃ later, calls = .cut request :: later ∧ Trace cut later result) ∨
        ∃ answer later, calls = .answered request answer :: later ∧
          Trace (next answer) later result

variable {calls : List Exchange}

/-- The way of a program where every request is answered, and always in the same manner. -/
def follow (replies : Replies) : Program α → List Exchange × α
  | done value => ([], value)
  | note _ rest => follow replies rest
  | call request next =>
      let (calls, result) := follow replies (next (replies request))
      (.answered request (replies request) :: calls, result)
  | timed request _ next =>
      let (calls, result) := follow replies (next (replies request))
      (.answered request (replies request) :: calls, result)

theorem trace_follow (replies : Replies) (program : Program α) :
    Trace program (follow replies program).1 (follow replies program).2 := by
  induction program with
  | done value => exact ⟨rfl, rfl⟩
  | note entry rest ih => exact ih
  | call request next ih => exact ⟨_, _, rfl, ih (replies request)⟩
  | timed request cut next cutIh nextIh =>
      exact .inr ⟨_, _, rfl, nextIh (replies request)⟩

/-- Of two ways through a program none goes on where the other one ends. -/
theorem Trace.unique {program : Program α} {first second back rest : List Exchange}
    {one other : α} (trace : Trace program first one) (also : Trace program second other)
    (same : first ++ back = second ++ rest) : first = second ∧ back = rest ∧ one = other := by
  induction program generalizing first second with
  | done value =>
      rcases trace with ⟨rfl, rfl⟩
      rcases also with ⟨rfl, rfl⟩
      exact ⟨rfl, same, rfl⟩
  | note entry rest ih => exact ih trace also same
  | call request next ih =>
      rcases trace with ⟨answer, later, rfl, trace⟩
      rcases also with ⟨reply, after, rfl, also⟩
      rw [List.cons_append, List.cons_append, List.cons.injEq] at same
      rcases same with ⟨⟨⟩, same⟩
      rcases ih answer trace also same with ⟨rfl, isBack, isResult⟩
      exact ⟨rfl, isBack, isResult⟩
  | timed request cut next cutIh nextIh =>
      rcases trace with ⟨later, rfl, trace⟩ | ⟨answer, later, rfl, trace⟩
      · rcases also with ⟨after, rfl, also⟩ | ⟨reply, after, rfl, also⟩
        · rw [List.cons_append, List.cons_append, List.cons.injEq] at same
          rcases cutIh trace also same.2 with ⟨rfl, isBack, isResult⟩
          exact ⟨rfl, isBack, isResult⟩
        · cases (List.cons.inj same).1
      · rcases also with ⟨after, rfl, also⟩ | ⟨reply, after, rfl, also⟩
        · cases (List.cons.inj same).1
        · rw [List.cons_append, List.cons_append, List.cons.injEq] at same
          rcases same with ⟨⟨⟩, same⟩
          rcases nextIh answer trace also same with ⟨rfl, isBack, isResult⟩
          exact ⟨rfl, isBack, isResult⟩

/-- A program that keeps to a rule asks by it on all of its ways. -/
theorem Keeps.allowed_of_trace {allowed : History → Request → Prop} {fits : History → α → Prop}
    {history : History} {program : Program α} {front back : List Exchange} {exchange : Exchange}
    {result : α} (keeps : Keeps allowed fits history program)
    (trace : Trace program (front ++ exchange :: back) result) :
    allowed (front.reverse ++ history) exchange.request := by
  have next {first : Exchange} {rest : List Exchange} (front : List Exchange)
      (same : first :: rest = front ++ exchange :: back) :
      front = [] ∧ first = exchange ∧ rest = back ∨
        ∃ later, front = first :: later ∧ rest = later ++ exchange :: back := by
    cases front with
    | nil => exact .inl ⟨rfl, List.cons.inj same⟩
    | cons head later =>
        rcases List.cons.inj same with ⟨rfl, isRest⟩
        exact .inr ⟨later, rfl, isRest⟩
  have reversed (history : History) (first : Exchange) (later : List Exchange) :
      (first :: later).reverse ++ history = later.reverse ++ first :: history := by
    rw [List.reverse_cons, List.append_assoc, List.singleton_append]
  induction program generalizing history front with
  | done value =>
      cases (List.append_eq_nil_iff.mp trace.1).2
  | note entry rest ih => exact ih keeps trace
  | call request after ih =>
      rcases keeps with ⟨asked, answered⟩
      rcases trace with ⟨answer, later, same, trace⟩
      rcases next front same.symm with ⟨rfl, rfl, rfl⟩ | ⟨middle, rfl, rfl⟩
      · exact asked
      · rw [reversed]
        exact ih answer (answered answer) trace
  | timed request cut after cutIh nextIh =>
      rcases keeps with ⟨asked, struck, answered⟩
      rcases trace with ⟨later, same, trace⟩ | ⟨answer, later, same, trace⟩
      · rcases next front same.symm with ⟨rfl, rfl, rfl⟩ | ⟨middle, rfl, rfl⟩
        · exact asked
        · rw [reversed]
          exact cutIh struck trace
      · rcases next front same.symm with ⟨rfl, rfl, rfl⟩ | ⟨middle, rfl, rfl⟩
        · exact asked
        · rw [reversed]
          exact nextIh answer (answered answer) trace

theorem trace_pure {value result : α} :
    Trace (pure value) calls result ↔ calls = [] ∧ result = value :=
  Iff.rfl

/-- A trace of two programs, one after the other, is a trace of each. -/
theorem trace_bind {program : Program α} {after : α → Program β} {result : β} :
    Trace (program >>= after) calls result ↔
      ∃ front back value, calls = front ++ back ∧ Trace program front value ∧
        Trace (after value) back result := by
  change Trace (program.bind after) calls result ↔ _
  induction program generalizing calls with
  | done value =>
      constructor
      · exact fun trace => ⟨[], calls, value, rfl, ⟨rfl, rfl⟩, trace⟩
      · rintro ⟨_, back, _, rfl, ⟨rfl, rfl⟩, trace⟩
        exact trace
  | note entry rest ih => exact ih
  | call request next ih =>
      constructor
      · rintro ⟨answer, later, rfl, trace⟩
        rcases (ih answer).mp trace with ⟨front, back, value, rfl, first, second⟩
        exact ⟨_ :: front, back, value, rfl, ⟨answer, front, rfl, first⟩, second⟩
      · rintro ⟨_, back, value, rfl, ⟨answer, front, rfl, first⟩, second⟩
        exact ⟨answer, front ++ back, rfl, (ih answer).mpr ⟨_, _, _, rfl, first, second⟩⟩
  | timed request cut next cutIh nextIh =>
      constructor
      · rintro (⟨later, rfl, trace⟩ | ⟨answer, later, rfl, trace⟩)
        · rcases cutIh.mp trace with ⟨front, back, value, rfl, first, second⟩
          exact ⟨_ :: front, back, value, rfl, .inl ⟨front, rfl, first⟩, second⟩
        · rcases (nextIh answer).mp trace with ⟨front, back, value, rfl, first, second⟩
          exact ⟨_ :: front, back, value, rfl, .inr ⟨answer, front, rfl, first⟩, second⟩
      · rintro ⟨_, back, value, rfl, ⟨front, rfl, first⟩ | ⟨answer, front, rfl, first⟩, second⟩
        · exact .inl ⟨front ++ back, rfl, cutIh.mpr ⟨_, _, _, rfl, first, second⟩⟩
        · exact .inr ⟨answer, front ++ back, rfl,
            (nextIh answer).mpr ⟨_, _, _, rfl, first, second⟩⟩

/-- A program under a deadline goes its way without one, or begins it and is cut short. -/
def Limited (late : α) (program : Program α) (calls : List Exchange) (result : α) : Prop :=
  Trace program calls result ∨
    result = late ∧ CutShort (fun whole => ∃ result, Trace program whole result) calls

/-- A request under a deadline is answered, and the program goes on, or is the last one. -/
theorem limited_of_timed {request : Request} {next : Except Error request.Answer → Program α}
    {program : Program α} {late result : α}
    (follows : ∀ answer calls result, Trace (next answer) calls result →
      Trace program (.answered request answer :: calls) result)
    (limited : ∀ answer calls, Trace (limit late (next answer)) calls result →
      Limited late (next answer) calls result)
    (trace : Trace (timed request (done late) fun answer => limit late (next answer)) calls
      result) :
    Limited late program calls result := by
  rcases trace with ⟨_, rfl, rfl, rfl⟩ | ⟨answer, later, rfl, trace⟩
  · let refuse : Replies := fun _ => .error (.serialization "")
    have whole := follows (refuse request) _ _ (trace_follow refuse (next (refuse request)))
    exact .inr ⟨rfl, [], request, refuse request, _, ⟨_, whole⟩, rfl⟩
  · rcases limited answer later trace with trace | ⟨isLate, cut⟩
    · exact .inl (follows answer later result trace)
    · refine .inr ⟨isLate, cut.cons ?_⟩
      rintro calls ⟨result, trace⟩
      exact ⟨result, follows answer calls result trace⟩

theorem Trace.limited {program : Program α} {late result : α}
    (trace : Trace (limit late program) calls result) : Limited late program calls result := by
  induction program generalizing calls with
  | done value => exact .inl trace
  | note entry rest ih => exact ih trace
  | call request next ih =>
      refine limited_of_timed ?_ (fun answer calls => ih answer) trace
      intro answer calls result trace
      exact ⟨answer, calls, rfl, trace⟩
  | timed request cut next cutIh nextIh =>
      refine limited_of_timed ?_ (fun answer calls => nextIh answer) trace
      intro answer calls result trace
      exact .inr ⟨answer, calls, rfl, trace⟩

theorem Limited.deadlined {program : Program α} {late result : α} {talk : List Exchange → Prop}
    (limited : Limited late program calls result)
    (talks : ∀ calls result, Trace program calls result → talk calls) : Deadlined talk calls := by
  rcases limited with whole | ⟨_, cut⟩
  · exact .inl (talks calls result whole)
  · refine .inr (cut.mono ?_)
    rintro calls ⟨result, whole⟩
    exact talks calls result whole

/-! ### Programs that may stop with an error -/

/-- What follows a program that stops with an error is not asked. -/
theorem trace_run_bind {program : Fallible α} {after : α → Fallible β} {result : Except Error β} :
    Trace (program >>= after).run calls result ↔
      (∃ front back value, calls = front ++ back ∧ Trace program.run front (.ok value) ∧
        Trace (after value).run back result) ∨
      ∃ error, Trace program.run calls (.error error) ∧ result = .error error := by
  rw [ExceptT.run_bind, trace_bind]
  constructor
  · rintro ⟨front, back, value | value, rfl, first, second⟩
    · rcases second with ⟨rfl, rfl⟩
      rw [List.append_nil]
      exact .inr ⟨value, first, rfl⟩
    · exact .inl ⟨front, back, value, rfl, first, second⟩
  · rintro (⟨front, back, value, rfl, first, second⟩ | ⟨error, first, rfl⟩)
    · exact ⟨front, back, .ok value, rfl, first, second⟩
    · exact ⟨calls, [], .error error, (List.append_nil _).symm, first, rfl, rfl⟩

theorem trace_run_ask {request : Request} {result : Except Error request.Answer} :
    Trace (ask request).run calls result ↔ calls = [.answered request result] := by
  constructor
  · rintro ⟨answer, later, rfl, rfl, rfl⟩
    rfl
  · rintro rfl
    exact ⟨result, [], rfl, rfl, rfl⟩

/-- A request whose answer is made something of is one exchange. -/
theorem trace_run_ask_pure {request : Request} {value : request.Answer → α}
    {result : Except Error α} :
    Trace (ask request >>= fun answer => (pure (value answer) : Fallible α)).run calls result ↔
      ∃ answer, calls = [.answered request answer] ∧ result = answer.map value := by
  rw [trace_run_bind]
  constructor
  · rintro (⟨_, _, answer, rfl, asked, rfl, rfl⟩ | ⟨error, asked, rfl⟩)
    · rw [trace_run_ask.mp asked]
      exact ⟨.ok answer, rfl, rfl⟩
    · exact ⟨.error error, trace_run_ask.mp asked, rfl⟩
  · rintro ⟨answer, rfl, rfl⟩
    cases answer with
    | error error => exact .inr ⟨error, trace_run_ask.mpr rfl, rfl⟩
    | ok answer => exact .inl ⟨_, [], answer, rfl, trace_run_ask.mpr rfl, rfl, rfl⟩

theorem trace_run_lift {program : Program β} {result : Except Error β} :
    Trace (liftM program : Fallible β).run calls result ↔
      ∃ value, Trace program calls value ∧ result = .ok value := by
  change Trace (ExceptT.lift program).run calls result ↔ _
  rw [ExceptT.run_lift, map_eq_pure_bind, trace_bind]
  constructor
  · rintro ⟨front, _, value, rfl, trace, rfl, rfl⟩
    rw [List.append_nil]
    exact ⟨value, trace, rfl⟩
  · rintro ⟨value, trace, rfl⟩
    exact ⟨calls, [], value, (List.append_nil _).symm, trace, rfl, rfl⟩

theorem trace_run_attempt {program : Fallible α} {result : Except Error (Except Error α)} :
    Trace (attempt program).run calls result ↔
      ∃ value, Trace program.run calls value ∧ result = .ok value :=
  trace_run_lift

theorem trace_run_result {outcome result : Except Error β} :
    Trace (liftM outcome : Fallible β).run calls result ↔ calls = [] ∧ result = outcome := by
  cases outcome <;> exact Iff.rfl

end Program

end ClusterOperator
