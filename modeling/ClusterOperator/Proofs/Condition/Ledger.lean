import ClusterOperator.Cluster.Basic
import ClusterOperator.Namespace.Basic
import ClusterOperator.Proofs.Condition.Settled

/-!
# The ledger of outcomes

The conditions of an object are a ledger in which every pass that succeeds or fails enters what came
of it, in place. There is one entry of each type, and after an entry was made the two types about
passes tell its outcome, whatever was there before.
-/

namespace ClusterOperator

/-- Whether an outcome is recorded in the conditions. -/
def IsRecorded : Except Error Outcome → Bool
  | .ok .success => true
  | .ok _ => false
  | .error _ => true

namespace Condition

variable {new : Condition} {conditions : List Condition} {type : String} {now : Instant}
  {outcome : Except Error Outcome}

/-- There is at most one condition of each type. -/
def Distinct (conditions : List Condition) : Prop := (conditions.map Condition.type).Nodup

/-- What the conditions say about the last pass, where that succeeded or failed. -/
inductive Tell (conditions : List Condition) : Except Error Outcome → Prop
  | success {held : Condition} (found : find? successType conditions = some held)
      (holds : held.status = .holds) (noError : find? errorType conditions = none) :
      Tell conditions (.ok .success)
  | error {error : Error} {failure held : Condition}
      (failed : find? errorType conditions = some failure) (holds : failure.status = .holds)
      (reason : failure.reason = error.reason) (message : failure.message = error.message)
      (validation : failure.reason = "ValidationFailed" ↔
        ∃ object message, error = .validation object message)
      (found : find? successType conditions = some held) (fails : held.status = .fails)
      (sameReason : held.reason = failure.reason) : Tell conditions (.error error)

theorem distinct_nil : Distinct [] := List.nodup_nil

theorem mem_types_set (mem : type ∈ ((set new conditions).1).map Condition.type) :
    type = new.type ∨ type ∈ conditions.map Condition.type := by
  induction conditions with
  | nil => exact .inl (by simpa [set] using mem)
  | cons first rest ih =>
      rw [set] at mem
      split at mem
      · rename_i isIt
        split at mem
        · exact .inr mem
        · simp only [List.map_cons, List.mem_cons, revise] at mem ⊢
          exact mem.imp id .inr
      · simp only [List.map_cons, List.mem_cons] at mem ⊢
        rcases mem with isFirst | later
        · exact .inr (.inl isFirst)
        · exact (ih later).imp id .inr

theorem Distinct.set (distinct : Distinct conditions) (new : Condition) :
    Distinct (Condition.set new conditions).1 := by
  unfold Distinct at distinct ⊢
  induction conditions with
  | nil => simp [Condition.set]
  | cons first rest ih =>
      simp only [List.map_cons, List.nodup_cons] at distinct
      rcases distinct with ⟨apart, distinct⟩
      rw [Condition.set]
      split
      · rename_i isIt
        split
        · simp only [List.map_cons, List.nodup_cons]
          exact ⟨apart, distinct⟩
        · simp only [List.map_cons, List.nodup_cons, revise]
          exact ⟨isIt ▸ apart, distinct⟩
      · rename_i isNot
        simp only [List.map_cons, List.nodup_cons]
        refine ⟨fun mem => ?_, ih distinct⟩
        rcases mem_types_set mem with same | later
        · exact isNot same
        · exact apart later

theorem Distinct.remove (distinct : Distinct conditions) (type : String) :
    Distinct (Condition.remove type conditions).1 :=
  List.Nodup.sublist (List.filter_sublist.map _) distinct

theorem Distinct.recordIn (distinct : Distinct conditions) (now : Instant)
    (outcome : Except Error Outcome) : Distinct (recordIn now outcome conditions) := by
  cases outcome with
  | error error => exact (distinct.set _).set _
  | ok good =>
      cases good with
      | success => exact (distinct.set _).remove _
      | requeue delay => exact distinct
      | finished => exact distinct

theorem Said.exists_find? (said : new.Said conditions) :
    ∃ held, find? new.type conditions = some held ∧ held.status = new.status ∧
      held.reason = new.reason ∧ held.message = new.message := by
  rcases said with ⟨held, found, same⟩
  simp only [saysSame, Bool.and_eq_true, decide_eq_true_eq] at same
  exact ⟨held, found, same.1.1, same.1.2, same.2⟩

theorem reason_eq_validationFailed_iff (error : Error) :
    error.reason = "ValidationFailed" ↔ ∃ object message, error = .validation object message := by
  cases error <;> simp [Error.reason]

theorem tell_markSuccess (now : Instant) (conditions : List Condition) :
    Tell (markSuccess now conditions) (.ok .success) := by
  have holds := isTrue_markSuccess now conditions
  simp only [isTrue, Option.any_eq_true, decide_eq_true_eq] at holds
  rcases holds with ⟨held, found, holds⟩
  exact .success found holds (find?_markSuccess now conditions)

theorem tell_markError (error : Error) (now : Instant) (conditions : List Condition) :
    Tell (markError error.reason error.message now conditions) (.error error) := by
  let failure : Condition :=
    { type := errorType, status := .holds, reason := error.reason, message := error.message,
      since := now }
  let success : Condition :=
    { type := successType, status := .fails, reason := error.reason, message := "", since := now }
  have failed : failure.Said (markError error.reason error.message now conditions) :=
    (said_set failure conditions).set successType_ne_errorType
  have unsuccessful : success.Said (markError error.reason error.message now conditions) :=
    said_set success _
  rcases failed.exists_find? with ⟨_, failed, holds, reason, message⟩
  rcases unsuccessful.exists_find? with ⟨_, found, fails, sameReason, _⟩
  refine .error failed holds reason message ?_ found fails (sameReason.trans reason.symm)
  rw [reason]
  exact reason_eq_validationFailed_iff error

/-- Whatever the conditions were, after an outcome was recorded they tell it. -/
theorem tell_recordIn (recorded : IsRecorded outcome) (now : Instant)
    (conditions : List Condition) : Tell (recordIn now outcome conditions) outcome := by
  cases outcome with
  | error error => exact tell_markError error now conditions
  | ok good =>
      cases good with
      | success => exact tell_markSuccess now conditions
      | requeue delay => cases recorded
      | finished => cases recorded

/-- Recording an outcome has nothing to do with the conditions of other types. -/
theorem find?_recordIn (noSuccess : successType ≠ type) (noError : errorType ≠ type)
    (now : Instant) (outcome : Except Error Outcome) (conditions : List Condition) :
    find? type (recordIn now outcome conditions) = find? type conditions := by
  cases outcome with
  | error error =>
      dsimp only [recordIn, markError]
      rw [find?_set_of_ne noSuccess, find?_set_of_ne noError]
  | ok good =>
      cases good with
      | success =>
          dsimp only [recordIn, markSuccess]
          rw [find?_remove_of_ne noError, find?_set_of_ne noSuccess]
      | requeue delay => rfl
      | finished => rfl

end Condition

/-- The conditions that are put into a status are those that are in it then. -/
class LawfulConditions (Status : Type) [HasConditions Status] : Prop where
  conditions_withConditions (status : Status) (conditions : List Condition) :
    HasConditions.conditions (HasConditions.withConditions status conditions) = conditions

instance : LawfulConditions ClusterStatus := ⟨fun _ _ => rfl⟩

instance : LawfulConditions NamespaceStatus := ⟨fun _ _ => rfl⟩

namespace Resource

variable {Spec Status : Type} [HasConditions Status] {resource : Resource Spec Status}
  {outcome : Except Error Outcome}

/-- The conditions of an object, none where nothing is known of it. -/
def conditions (resource : Resource Spec Status) : List Condition :=
  HasConditions.conditions resource.statusOrInitial

theorem conditions_of_status_eq {other : Resource Spec Status}
    (same : resource.status = other.status) : resource.conditions = other.conditions := by
  simp only [conditions, statusOrInitial, same]

theorem conditions_mapConditions [LawfulConditions Status]
    (change : List Condition → List Condition) (resource : Resource Spec Status) :
    (resource.mapConditions change).conditions = change resource.conditions :=
  LawfulConditions.conditions_withConditions _ _

theorem conditions_record [LawfulConditions Status] (now : Instant)
    (outcome : Except Error Outcome) (resource : Resource Spec Status) :
    (resource.record now outcome).conditions = recordIn now outcome resource.conditions := by
  cases outcome with
  | error error => exact conditions_mapConditions _ resource
  | ok good =>
      cases good with
      | success => exact conditions_mapConditions _ resource
      | requeue delay => rfl
      | finished => rfl

theorem record_of_not_isRecorded (unrecorded : IsRecorded outcome = false) (now : Instant)
    (resource : Resource Spec Status) : resource.record now outcome = resource := by
  cases outcome with
  | error error => cases unrecorded
  | ok good =>
      cases good with
      | success => cases unrecorded
      | requeue delay => rfl
      | finished => rfl

theorem status_record_ne_none (recorded : IsRecorded outcome) (now : Instant)
    (resource : Resource Spec Status) : (resource.record now outcome).status ≠ none := by
  cases outcome with
  | error error => exact Option.some_ne_none _
  | ok good =>
      cases good with
      | success => exact Option.some_ne_none _
      | requeue delay => cases recorded
      | finished => cases recorded

end Resource

end ClusterOperator
