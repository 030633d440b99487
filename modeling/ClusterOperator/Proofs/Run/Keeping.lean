import ClusterOperator.OperatorState
import ClusterOperator.Proofs.Program.Notes
import ClusterOperator.Proofs.Run.Invariant

/-!
# What the operator keeps in a run

Passes write things down for the operator as they go, each in a step of its own. So what the
operator keeps in the course of a run is known from the steps.
-/

namespace ClusterOperator

/-- What the operator keeps after an event: a pass that notes something writes it down. -/
def OperatorState.after (state : OperatorState) (situation : Situation) : Event → OperatorState
  | .turn pass .noted =>
      match (situation.courses[pass]?).map Course.rest with
      | some (.note entry _) => state.take entry
      | _ => state
  | _ => state

/-- What is left of a pass to do writes down no more than all of it. -/
theorem Course.Takes.notes {kind : Note → Prop} {course later : Course} {turn : Turn}
    {store laterStore : Store} (takes : course.Takes store turn later laterStore)
    (notes : course.rest.Notes kind) : later.rest.Notes kind := by
  have answered {request : Request}
      {next : Except Error request.Answer → Program (Except Error Action)}
      (awaits : course.rest.Awaits request next) (answer : Except Error request.Answer) :
      (next answer).Notes kind := by
    generalize course.rest = program at awaits notes
    cases awaits with
    | call => exact notes answer
    | timed => exact notes.2 answer
  cases takes with
  | note todo =>
      rw [todo] at notes
      exact notes.2
  | answer awaits isAnswer => exact answered awaits _
  | fault awaits error attempted => exact answered awaits _
  | cut todo attempted =>
      rw [todo] at notes
      exact notes.1

namespace Situation

/-- A run, with what the operator keeps at its beginning and at its end. -/
inductive Keeping (rule : Situation → Event → Situation → Prop) (start : Situation)
    (initial : OperatorState) : List Event → Situation → OperatorState → Prop
  | refl : Keeping rule start initial [] start initial
  | step {middle finish : Situation} {state : OperatorState} {events : List Event} {event : Event}
      (keeping : Keeping rule start initial events middle state) (step : Step middle event finish)
      (obeyed : rule middle event finish) :
      Keeping rule start initial (events ++ [event]) finish (state.after middle event)

variable {rule : Situation → Event → Situation → Prop} {start before after finish : Situation}
  {initial state : OperatorState} {events : List Event} {event : Event}

theorem Run.exists_keeping (run : Run rule start events finish) (initial : OperatorState) :
    ∃ state, Keeping rule start initial events finish state := by
  induction run with
  | refl => exact ⟨initial, .refl⟩
  | step run step obeyed ih =>
      rcases ih with ⟨state, keeping⟩
      exact ⟨_, keeping.step step obeyed⟩

/-- In a step nothing is written down, or a pass writes down what it was about to. -/
theorem Step.keeps_or_notes (step : Step before event after) (state : OperatorState) :
    (∀ pass, event ≠ .turn pass .noted) ∧ state.after before event = state ∨
      ∃ pass course entry rest, event = .turn pass .noted ∧
        before.courses[pass]? = some course ∧ course.rest = .note entry rest ∧
        state.after before event = state.take entry ∧
        after = { before with courses := before.courses.set pass { course with rest } } := by
  cases step with
  | outside change => exact .inl ⟨by simp, rfl⟩
  | begin subject settings now => exact .inl ⟨by simp, rfl⟩
  | @turn pass course later turn store there takes =>
      cases takes with
      | @note entry rest _ todo =>
          refine .inr ⟨pass, course, entry, rest, rfl, there, todo, ?_, rfl⟩
          simp [OperatorState.after, there, todo]
      | answer awaits answered => exact .inl ⟨by simp, rfl⟩
      | fault awaits error attempted => exact .inl ⟨by simp, rfl⟩
      | cut todo attempted => exact .inl ⟨by simp, rfl⟩

end Situation

end ClusterOperator
