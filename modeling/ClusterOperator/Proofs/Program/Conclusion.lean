import ClusterOperator.Pass.Outcome
import ClusterOperator.Proofs.Program.Trace

/-!
# Conclusions of passes

In the end a pass writes what it changed, if it changed anything, and answers as its body and its
write have it.
-/

namespace ClusterOperator

/-- The write at the end of a pass, which is left out where there is nothing to write, and what
became of it. -/
inductive Closing (empty : Bool) (asks : Except Error Unit → Exchange) :
    List Exchange → Option (Except Error Unit) → Prop
  | idle (nothing : empty) : Closing empty asks [] none
  | wrote (something : empty = false) (answer : Except Error Unit) :
      Closing empty asks [asks answer] (some answer)

theorem Closing.unique {empty : Bool} {asks : Except Error Unit → Exchange}
    {calls : List Exchange} {written also : Option (Except Error Unit)}
    (distinct : ∀ one other, asks one = asks other → one = other)
    (closing : Closing empty asks calls written) (closes : Closing empty asks calls also) :
    written = also := by
  cases closing with
  | idle nothing =>
      cases closes
      rfl
  | wrote something answer =>
      generalize asked : [asks answer] = calls at closes
      cases closes with
      | idle nothing => cases asked
      | wrote something reply => rw [distinct _ _ (List.cons.inj asked).1]

namespace Program

/-- What a pass answers in the end. -/
def conclusion : Except Error Outcome → Except Error Action
  | .ok outcome => .ok outcome.action
  | .error error => if error.isPermanent then .ok .awaitChange else .error error

theorem perform_conclude (replies : Replies) (failureKey : String)
    (outcome : Except Error Outcome) (store : Store) :
    perform replies (conclude failureKey outcome) store = (conclusion outcome, store) := by
  cases outcome with
  | ok outcome => rfl
  | error error =>
      dsimp only [conclude, conclusion]
      split <;> rfl

theorem settle_ok (result : Except Error Outcome) : settle result (.ok ()) = result := by
  cases result <;> rfl

variable {calls : List Exchange} {outcome : Except Error Outcome} {empty : Bool}
  {asks : Except Error Unit → Exchange}

theorem trace_conclusion {failureKey : String} {result : Except Error Action}
    (trace : Trace (conclude failureKey outcome).run calls result) :
    calls = [] ∧ result = conclusion outcome := by
  cases outcome with
  | ok good => exact trace
  | error error =>
      dsimp only [conclude] at trace
      dsimp only [conclusion]
      split at trace
      · rw [if_pos ‹_›]
        exact trace
      · rw [if_neg ‹_›]
        exact trace

/-- A pass writes at its end if it has to, and ends as that and its body have it. -/
theorem closing_of_trace {failureKey : String} {write : Fallible Unit}
    {result : Except Error Action}
    (asked : ∀ calls answer, Trace write.run calls answer → calls = [asks answer])
    (trace : Trace (do
      let written ← if empty then pure (.ok ()) else attempt write
      conclude failureKey (settle outcome written) : Fallible Action).run calls result) :
    ∃ written, Closing empty asks calls written ∧
      result = conclusion (settle outcome (written.getD (.ok ()))) := by
  dsimp only at trace
  split at trace
  · have concluded := trace_conclusion (trace : Trace (conclude _ _).run calls result)
    rw [concluded.1]
    exact ⟨none, .idle ‹_›, concluded.2⟩
  · rcases trace_run_bind.mp trace with ⟨_, _, answer, rfl, tried, rest⟩ | ⟨error, tried, _⟩
    · rcases trace_run_attempt.mp tried with ⟨_, tried, ⟨⟩⟩
      rcases trace_conclusion rest with ⟨rfl, ends⟩
      rw [asked _ _ tried]
      exact ⟨some answer, .wrote (eq_false_of_ne_true ‹_›) answer, ends⟩
    · rcases trace_run_attempt.mp tried with ⟨_, _, ⟨⟩⟩

end Program

end ClusterOperator
