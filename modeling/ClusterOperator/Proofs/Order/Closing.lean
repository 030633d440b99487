import ClusterOperator.Proofs.Condition.Ledger
import ClusterOperator.Proofs.Order.Realm
import ClusterOperator.Proofs.Program.Conclusion

/-!
# The ends of passes

Every pass ends in the same way, with what came of it written down. Whether it has to write its
object does not depend on the time, and neither does what it writes, but for the times in it.
-/

namespace ClusterOperator

open Program

variable {ρ : Type}

/-- What is written down at the end of a pass. -/
def Upkeep.closing (failureKey : String) : Except Error Outcome → List Upkeep
  | .ok _ => [.noted (.settled failureKey)]
  | .error error => if error.isPermanent then [] else [.failed failureKey]

theorem Upkeep.isOf_closing {subject : Subject} {outcome : Except Error Outcome} :
    ∀ upkeep ∈ Upkeep.closing subject.failureKey outcome, upkeep.IsOf subject := by
  intro upkeep there
  unfold closing at there
  split at there
  · cases List.mem_singleton.mp there
    rfl
  · split at there
    · cases there
    · cases List.mem_singleton.mp there
      rfl

/-- A pass ends as its outcome has it. -/
theorem Backend.pass_of_run {backend : Backend ρ} {settings : Settings} {subject : Subject}
    {now : Instant} {realm middle : Realm ρ} {outcome : Except Error Outcome}
    (ran : (subject.program settings now).run backend.environment realm =
      (conclude subject.failureKey outcome).run.run backend.environment middle) :
    backend.pass settings subject now realm =
      (conclusion outcome,
        { middle with
          operator := middle.operator.keepAll (Upkeep.closing subject.failureKey outcome) }) := by
  unfold Backend.pass
  rw [ran]
  cases outcome with
  | ok outcome => rfl
  | error error =>
      dsimp only [conclude, conclusion, Upkeep.closing]
      cases error.isPermanent <;> rfl

theorem Program.run_askStore (backend : Backend ρ) (request : StoreRequest) (realm : Realm ρ) :
    (askStore request).run.run backend.environment realm =
      ((realm.store.answer request).1, { realm with store := (realm.store.answer request).2 }) :=
  rfl

theorem Program.run_write (backend : Backend ρ) (entry : Note) (realm : Realm ρ) :
    (liftM (write entry) : Fallible Unit).run.run backend.environment realm =
      (.ok (), { realm with operator := realm.operator.take entry }) :=
  rfl

/-- Where the store takes what a pass writes at its end, the pass ends as its body has it. -/
theorem Program.run_closing {backend : Backend ρ} {write : Fallible Unit} {failureKey : String}
    {result : Except Error Outcome} {empty : Bool} {realm written : Realm ρ}
    (accepted : empty = false →
      write.run.run backend.environment realm = (.ok (), written)) :
    (do
      let written ← if empty then pure (.ok ()) else attempt write
      conclude failureKey (settle result written) : Fallible Action).run.run
        backend.environment realm =
      (conclude failureKey result).run.run backend.environment
        (if empty then realm else written) := by
  dsimp only
  split
  · rw [LawfulMonad.pure_bind, settle_ok]
  · rw [run_run_bind, run_run_attempt, accepted (eq_false_of_ne_true ‹_›)]
    dsimp only
    rw [settle_ok]

/-! ### Objects as passes leave them -/

namespace Resource

variable {Spec Status : Type} [HasConditions Status] {held : Resource Spec Status}
  {after : Instant → Resource Spec Status}

/-- How a pass leaves an object does not depend on the time, but for the times in the status. -/
structure Steady (held : Resource Spec Status) (after : Instant → Resource Spec Status) : Prop where
  metadata : ∀ now later, (after now).metadata = (after later).metadata
  status : ∀ now later, (after now).status.map undate = (after later).status.map undate
  idle : ∀ now later, (after now).status = held.status → (after later).status = held.status

/-- Where only conditions are written, and those only differ in their times. -/
theorem steady_of_timeless {change : Instant → List Condition → List Condition}
    (wrap : List Condition → Status) (timeless : Condition.Timeless change)
    (metadata : ∀ now later, (after now).metadata = (after later).metadata)
    (status : ∀ now, (after now).status =
      some (wrap (change now (HasConditions.conditions held.statusOrInitial))))
    (conditions : ∀ list, HasConditions.conditions (wrap list) = list)
    (undated : ∀ list, undate (wrap list) = wrap (list.map Condition.undated)) :
    held.Steady after where
  metadata := metadata
  status now later := by
    rw [status, status, Option.map_some, Option.map_some, undated, undated, timeless.same now later]
  idle now later unchanged := by
    rw [status] at unchanged
    have same : change now (HasConditions.conditions held.statusOrInitial) =
        HasConditions.conditions held.statusOrInitial := by
      conv => rhs; rw [statusOrInitial, ← unchanged]
      exact (conditions _).symm
    rw [status, timeless.idle now later _ same, ← unchanged, same]

variable [DecidableEq Status]

theorem Steady.status_between (steady : held.Steady after) (now later : Instant) :
    (ObjectPatch.between held (after now)).status.map undate =
      (ObjectPatch.between held (after later)).status.map undate := by
  dsimp only [ObjectPatch.between]
  by_cases same : (after now).status = held.status
  · rw [if_pos same, if_pos (steady.idle now later same)]
  · rw [if_neg same, if_neg fun back => same (steady.idle later now back)]
    exact steady.status now later

/-- A pass has something to write at any time or at none. -/
theorem Steady.isEmpty_between (steady : held.Steady after) (now later : Instant) :
    (ObjectPatch.between held (after now)).isEmpty =
      (ObjectPatch.between held (after later)).isEmpty := by
  have finalizers : (ObjectPatch.between held (after now)).finalizers =
      (ObjectPatch.between held (after later)).finalizers := by
    dsimp only [ObjectPatch.between]
    rw [steady.metadata now later]
  have status := congrArg Option.isNone (steady.status_between now later)
  rw [Option.isNone_map, Option.isNone_map] at status
  unfold ObjectPatch.isEmpty
  rw [finalizers, status]

/-- What a pass writes is the same at any time, but for version and times. -/
theorem Steady.essence_withPatch (steady : held.Steady after) (now later : Instant)
    (writer other : Store) :
    (held.withPatch (.between held (after now)) writer).essence =
      (held.withPatch (.between held (after later)) other).essence := by
  have finalizers : (ObjectPatch.between held (after now)).finalizers =
      (ObjectPatch.between held (after later)).finalizers := by
    dsimp only [ObjectPatch.between]
    rw [steady.metadata now later]
  have status := steady.status_between now later
  unfold essence withPatch
  dsimp only [Metadata.unversioned, Metadata.inVersion]
  rw [finalizers]
  generalize (ObjectPatch.between held (after now)).status = left at status
  generalize (ObjectPatch.between held (after later)).status = right at status
  cases left <;> cases right <;> simp_all

end Resource

end ClusterOperator
