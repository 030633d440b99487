import ClusterOperator.OperatorState
import ClusterOperator.Proofs.Index.Order
import ClusterOperator.Proofs.Run.Basic

/-!
# Upkeep

What the operator writes down of a pass: which cluster its namespace hangs on, and whether the pass
has failed. All of it goes into the entries of the object that the pass is over, so that the upkeep
for different objects can be done in any order.
-/

namespace ClusterOperator

namespace Subject

/-- The key under which the failures of an object are counted. -/
def failureKey : Subject → String
  | cluster key => Cluster.failureKey key
  | ns key => Namespace.failureKey key

end Subject

/-- Something that is written down of a pass. -/
inductive Upkeep where
  | noted (entry : Note)
  | failed (failureKey : String)

namespace Upkeep

/-- What is written down is about this object. -/
def IsOf (subject : Subject) : Upkeep → Prop
  | noted (.listed ns) => subject = .ns ns.key
  | noted (.unlisted key) => subject = .ns key
  | noted (.settled failureKey) => failureKey = subject.failureKey
  | failed failureKey => failureKey = subject.failureKey

/-- What becomes of the index. -/
def reindex : Upkeep → DependencyIndex → DependencyIndex
  | noted (.listed ns), index => index.upsert ns
  | noted (.unlisted key), index => index.remove key
  | noted (.settled _), index => index
  | failed _, index => index

/-- What becomes of the counts of failures. -/
def recount : Upkeep → FailureCounts → FailureCounts
  | noted (.listed _), failures => failures
  | noted (.unlisted _), failures => failures
  | noted (.settled failureKey), failures => failures.reset failureKey
  | failed failureKey, failures => failures.record failureKey

end Upkeep

namespace OperatorState

def keep (state : OperatorState) (upkeep : Upkeep) : OperatorState where
  index := upkeep.reindex state.index
  failures := upkeep.recount state.failures

/-- Writes several things down. -/
def keepAll (state : OperatorState) (upkeep : List Upkeep) : OperatorState :=
  upkeep.foldl keep state

theorem index_keepAll (state : OperatorState) (all : List Upkeep) :
    (state.keepAll all).index =
      all.foldl (fun index upkeep => upkeep.reindex index) state.index := by
  induction all generalizing state with
  | nil => rfl
  | cons upkeep rest ih => exact ih (state.keep upkeep)

theorem failures_keepAll (state : OperatorState) (all : List Upkeep) :
    (state.keepAll all).failures =
      all.foldl (fun failures upkeep => upkeep.recount failures) state.failures := by
  induction all generalizing state with
  | nil => rfl
  | cons upkeep rest ih => exact ih (state.keep upkeep)

end OperatorState

/-- What one object has in the operator's state may have changed, and nothing else has. -/
structure OperatorState.KeepsOthers (subject : Subject) (before after : OperatorState) :
    Prop where
  failures : ∀ failureKey, subject.failureKey ≠ failureKey →
    after.failures.get? failureKey = before.failures.get? failureKey
  clusterOf : ∀ other, subject ≠ .ns other →
    after.index.clusterOf.get? other = before.index.clusterOf.get? other
  under : ∀ cluster other, subject ≠ .ns other →
    (after.index.under cluster).get? other = (before.index.under cluster).get? other

namespace Upkeep

variable {subject other : Subject} {upkeep also : Upkeep} {all others : List Upkeep}

/-- Nothing is done to the index, or something about the one namespace. -/
theorem reindex_cases (isOf : upkeep.IsOf subject) :
    upkeep.reindex = id ∨
      ∃ dependent, subject = .ns dependent ∧ DependencyIndex.Rewrites dependent upkeep.reindex := by
  cases upkeep with
  | failed failureKey => exact .inl rfl
  | noted entry =>
      cases entry with
      | settled failureKey => exact .inl rfl
      | listed ns => exact .inr ⟨ns.key, isOf, DependencyIndex.rewrites_upsert ns⟩
      | unlisted key => exact .inr ⟨key, isOf, DependencyIndex.rewrites_remove key⟩

/-- Nothing is done to the counts, or something to the one of the object. -/
theorem recount_cases (isOf : upkeep.IsOf subject) :
    ∃ target : Option Nat → Option Nat, ∀ failures failureKey,
      (upkeep.recount failures).get? failureKey =
        if subject.failureKey = failureKey then target (failures.get? failureKey)
        else failures.get? failureKey := by
  have unchanged (failures : FailureCounts) (failureKey : String) : failures.get? failureKey =
      if subject.failureKey = failureKey then id (failures.get? failureKey)
      else failures.get? failureKey := by
    split <;> rfl
  cases upkeep with
  | failed failureKey =>
      cases isOf
      refine ⟨fun held => some (Nat.min (held.getD 0 + 1) maxFailures), fun failures key => ?_⟩
      refine (SortedMap.get?_insert _ _ _ _).trans ?_
      split
      · rename_i here
        rw [← here]
        rfl
      · rfl
  | noted entry =>
      cases entry with
      | settled failureKey =>
          cases isOf
          exact ⟨fun _ => none, fun failures key => SortedMap.get?_erase _ _ _⟩
      | listed ns => exact ⟨id, unchanged⟩
      | unlisted key => exact ⟨id, unchanged⟩

/-- What is written into the index of different objects can be written in any order. -/
theorem reindex_reindex (isOf : upkeep.IsOf subject) (isOther : also.IsOf other)
    (ne : subject ≠ other) (index : DependencyIndex) :
    also.reindex (upkeep.reindex index) = upkeep.reindex (also.reindex index) := by
  rcases reindex_cases isOf with none | ⟨dependent, rfl, rewrites⟩
  · rw [none]
    rfl
  · rcases reindex_cases isOther with none | ⟨second, rfl, rewritesOther⟩
    · rw [none]
      rfl
    · exact rewrites.comm rewritesOther (fun same => ne (congrArg Subject.ns same)) index

/-- So can the failures of objects that are counted apart. -/
theorem recount_recount (isOf : upkeep.IsOf subject) (isOther : also.IsOf other)
    (apart : subject.failureKey ≠ other.failureKey) (failures : FailureCounts) :
    also.recount (upkeep.recount failures) = upkeep.recount (also.recount failures) := by
  rcases recount_cases isOf with ⟨target, becomes⟩
  rcases recount_cases isOther with ⟨targetOther, becomesOther⟩
  apply SortedMap.ext_get?
  intro failureKey
  rw [becomesOther, becomes, becomes, becomesOther]
  by_cases here : subject.failureKey = failureKey
  · have notOther : other.failureKey ≠ failureKey := fun same => apart (here.trans same.symm)
    rw [if_neg notOther, if_neg notOther, if_pos here]
  · rw [if_neg here, if_neg here]

/-- A change can be made before or after others where it can be made before or after each. -/
theorem foldl_act {σ α : Type} {act : σ → α → σ} {one : α} {others : List α}
    (comm : ∀ two ∈ others, ∀ state, act (act state one) two = act (act state two) one)
    (state : σ) : others.foldl act (act state one) = act (others.foldl act state) one := by
  induction others generalizing state with
  | nil => rfl
  | cons two rest ih =>
      rw [List.foldl_cons, comm two (List.mem_cons_self ..), List.foldl_cons]
      exact ih (fun two there => comm two (List.mem_cons_of_mem _ there)) _

theorem foldl_foldl {σ α : Type} {act : σ → α → σ} {first second : List α}
    (comm : ∀ one ∈ first, ∀ two ∈ second, ∀ state,
      act (act state one) two = act (act state two) one) (state : σ) :
    second.foldl act (first.foldl act state) = first.foldl act (second.foldl act state) := by
  induction first generalizing state with
  | nil => rfl
  | cons one rest ih =>
      rw [List.foldl_cons, List.foldl_cons, ← foldl_act (comm one (List.mem_cons_self ..))]
      exact ih (fun one there => comm one (List.mem_cons_of_mem _ there)) _

theorem keepAll_keepAll (areOf : ∀ upkeep ∈ all, upkeep.IsOf subject)
    (areOther : ∀ also ∈ others, also.IsOf other) (ne : subject ≠ other)
    (state : OperatorState) :
    ((state.keepAll all).keepAll others).index = ((state.keepAll others).keepAll all).index ∧
      (subject.failureKey ≠ other.failureKey →
        ((state.keepAll all).keepAll others).failures =
          ((state.keepAll others).keepAll all).failures) := by
  simp only [OperatorState.index_keepAll, OperatorState.failures_keepAll]
  refine ⟨foldl_foldl (fun one there two found index => ?_) _, fun apart =>
    foldl_foldl (fun one there two found failures => ?_) _⟩
  · exact reindex_reindex (areOf one there) (areOther two found) ne index
  · exact recount_recount (areOf one there) (areOther two found) apart failures

theorem keepsOthers_keep (isOf : upkeep.IsOf subject) (state : OperatorState) :
    state.KeepsOthers subject (state.keep upkeep) where
  failures failureKey apart := by
    rcases recount_cases isOf with ⟨target, becomes⟩
    exact (becomes _ _).trans (if_neg apart)
  clusterOf other apart := by
    rcases reindex_cases isOf with none | ⟨dependent, rfl, rewrites⟩
    · dsimp only [OperatorState.keep]
      rw [none]
      rfl
    · exact rewrites.clusterOf (fun same => apart (congrArg Subject.ns same)) state.index
  under cluster other apart := by
    rcases reindex_cases isOf with none | ⟨dependent, rfl, rewrites⟩
    · dsimp only [OperatorState.keep]
      rw [none]
      rfl
    · exact rewrites.under (fun same => apart (congrArg Subject.ns same)) state.index cluster

/-- Upkeep leaves alone what the operator keeps of other objects. -/
theorem keepsOthers_keepAll (areOf : ∀ upkeep ∈ all, upkeep.IsOf subject)
    (state : OperatorState) : state.KeepsOthers subject (state.keepAll all) := by
  induction all generalizing state with
  | nil => exact ⟨fun _ _ => rfl, fun _ _ => rfl, fun _ _ _ => rfl⟩
  | cons upkeep rest ih =>
      have first := keepsOthers_keep (areOf upkeep (List.mem_cons_self ..)) state
      have later := ih (fun one there => areOf one (List.mem_cons_of_mem _ there))
        (state.keep upkeep)
      exact ⟨fun key apart => (later.failures key apart).trans (first.failures key apart),
        fun other apart => (later.clusterOf other apart).trans (first.clusterOf other apart),
        fun cluster other apart =>
          (later.under cluster other apart).trans (first.under cluster other apart)⟩

end Upkeep

end ClusterOperator
