import ClusterOperator.Program.Environment
import ClusterOperator.Store.Answer

/-!
# Programs alone with a store

What comes of a program when nobody else writes, every request to the store is answered by the store
as it is, and no deadline strikes.
-/

namespace ClusterOperator

/-- What servers answer, whatever they were asked before. -/
abbrev Replies := (request : Request) → Except Error request.Answer

/-- The answer to a request, with the store after it. -/
def Store.reply (replies : Replies) :
    (request : Request) → Store → Except Error request.Answer × Store
  | .store request, store => store.answer request
  | .connect cluster, store => (replies (.connect cluster), store)
  | .server cluster request, store => (replies (.server cluster request), store)
  | .close cluster, store => (replies (.close cluster), store)

/-- A store that answers at once, and that nobody else writes. -/
def Store.alone (replies : Replies) : Environment Store where
  note _ store := store
  call := Store.reply replies
  timed request store := (some (store.reply replies request).1, (store.reply replies request).2)

namespace Program

variable {α β : Type} (replies : Replies)

/-- What comes of a program, with the store after it. -/
def perform (program : Fallible α) (store : Store) : Except Error α × Store :=
  program.run.run (Store.alone replies) store

/-- A deadline that does not strike makes no difference. -/
theorem run_limit (cut : α) (program : Program α) (store : Store) :
    (limit cut program).run (Store.alone replies) store =
      program.run (Store.alone replies) store := by
  induction program generalizing store with
  | done value => rfl
  | note entry rest ih => exact ih store
  | call request next ih => exact ih _ _
  | timed request cut next cutIh nextIh => exact nextIh _ _

/-- What every request keeps true of the store, a program does. -/
theorem run_alone_preserves {holds : Store → Prop}
    (kept : ∀ store request, holds store → holds (store.answer request).2) (program : Program α)
    {store : Store} (start : holds store) : holds (program.run (Store.alone replies) store).2 := by
  have replied (request : Request) {store : Store} (start : holds store) :
      holds (store.reply replies request).2 := by
    cases request with
    | store request => exact kept store request start
    | connect cluster => exact start
    | server cluster request => exact start
    | close cluster => exact start
  induction program generalizing store with
  | done value => exact start
  | note entry rest ih => exact ih start
  | call request next ih => exact ih _ (replied request start)
  | timed request cut next cutIh nextIh => exact nextIh _ (replied request start)

@[simp]
theorem perform_pure (value : α) (store : Store) :
    perform replies (pure value) store = (.ok value, store) :=
  rfl

theorem perform_bind (program : Fallible α) (after : α → Fallible β) (store : Store) :
    perform replies (program >>= after) store =
      match perform replies program store with
      | (.ok value, later) => perform replies (after value) later
      | (.error error, later) => (.error error, later) := by
  refine (run_run_bind (Store.alone replies) program after store).trans ?_
  unfold perform
  cases program.run.run (Store.alone replies) store with
  | mk result later => cases result <;> rfl

@[simp]
theorem perform_askStore (request : StoreRequest) (store : Store) :
    perform replies (askStore request) store = store.answer request :=
  rfl

@[simp]
theorem perform_result (result : Except Error α) (store : Store) :
    perform replies (liftM result) store = (result, store) :=
  run_run_result (Store.alone replies) result store

theorem perform_lift (program : Program α) (store : Store) :
    perform replies (liftM program) store =
      (.ok (program.run (Store.alone replies) store).1,
        (program.run (Store.alone replies) store).2) :=
  run_run_lift (Store.alone replies) program store

theorem perform_attempt (program : Fallible α) (store : Store) :
    perform replies (attempt program) store =
      (.ok (perform replies program store).1, (perform replies program store).2) :=
  run_run_attempt (Store.alone replies) program store

end Program

end ClusterOperator
