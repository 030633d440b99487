import ClusterOperator.Program.Basic

/-!
# Environments

An environment answers requests and keeps a state while it does so. Running a program in an
environment gives the program's value and the state that the environment is left in.
-/

namespace ClusterOperator

/-- Somebody who answers requests. -/
structure Environment (σ : Type) where
  /-- Takes note of what a pass writes down. -/
  note : Note → σ → σ
  /-- Answers a request. -/
  call : (request : Request) → σ → Except Error request.Answer × σ
  /-- Answers a request under a deadline; there is no answer where the deadline strikes. -/
  timed : (request : Request) → σ → Option (Except Error request.Answer) × σ

namespace Program

variable {σ α : Type}

def run (environment : Environment σ) : Program α → σ → α × σ
  | done value, state => (value, state)
  | note entry rest, state => rest.run environment (environment.note entry state)
  | call request next, state =>
      let (answer, state) := environment.call request state
      (next answer).run environment state
  | timed request cut next, state =>
      match environment.timed request state with
      | (none, state) => cut.run environment state
      | (some answer, state) => (next answer).run environment state

theorem run_bind {β : Type} (environment : Environment σ) (program : Program α)
    (after : α → Program β) (state : σ) :
    (program.bind after).run environment state =
      (after (program.run environment state).1).run environment
        (program.run environment state).2 := by
  induction program generalizing state with
  | done value => rfl
  | note entry rest ih => exact ih _
  | call request next ih => exact ih _ _
  | timed request cut next cutIh nextIh =>
    simp only [bind, run]
    split
    · exact cutIh _
    · exact nextIh _ _

/-- What follows a program that stops with an error is not run. -/
theorem run_run_bind {β : Type} (environment : Environment σ) (program : Fallible α)
    (after : α → Fallible β) (state : σ) :
    (program >>= after).run.run environment state =
      match program.run.run environment state with
      | (.ok value, later) => (after value).run.run environment later
      | (.error error, later) => (.error error, later) := by
  rw [ExceptT.run_bind]
  refine (run_bind _ _ _ state).trans ?_
  cases program.run.run environment state with
  | mk result later => cases result <;> rfl

/-- What is made of a value in the end leaves the environment alone. -/
theorem run_run_bind_pure_snd {β : Type} (environment : Environment σ) (program : Fallible α)
    (value : α → β) (state : σ) :
    ((program >>= fun held => pure (value held)).run.run environment state).2 =
      (program.run.run environment state).2 := by
  rw [run_run_bind]
  cases program.run.run environment state with
  | mk result later => cases result <;> rfl

theorem run_run_lift (environment : Environment σ) (program : Program α) (state : σ) :
    (liftM program : Fallible α).run.run environment state =
      (.ok (program.run environment state).1, (program.run environment state).2) := by
  change (ExceptT.lift program).run.run _ state = _
  rw [ExceptT.run_lift, map_eq_pure_bind]
  exact run_bind _ _ _ state

theorem run_run_attempt (environment : Environment σ) (program : Fallible α) (state : σ) :
    (attempt program).run.run environment state =
      (.ok (program.run.run environment state).1, (program.run.run environment state).2) :=
  run_run_lift environment program.run state

theorem run_run_result (environment : Environment σ) (result : Except Error α) (state : σ) :
    (liftM result : Fallible α).run.run environment state = (result, state) := by
  cases result <;> rfl

end Program

end ClusterOperator
