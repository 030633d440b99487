import ClusterOperator.Pass.Outcome

/-!
# Settled conditions

Writing what a list of conditions already says changes nothing, whenever it is written. So the list
that a pass leaves is one that the same outcome leaves as it is. Conditions that are written at
another time say the same, and are new at one time if and only if they are new at the other.
-/

namespace ClusterOperator.Condition

variable {new other : Condition} {type : String} {conditions : List Condition}

/-- The condition of this type says the same already. -/
def Said (new : Condition) (conditions : List Condition) : Prop :=
  ∃ held, find? new.type conditions = some held ∧ held.saysSame new

theorem saysSame_self (condition : Condition) : condition.saysSame condition := by
  simp [saysSame]

theorem saysSame_revise (held new : Condition) : (held.revise new).saysSame new := by
  simp [saysSame, revise]

/-- What is said already is not written again. -/
theorem set_of_said (said : new.Said conditions) : set new conditions = (conditions, false) := by
  rcases said with ⟨held, found, same⟩
  induction conditions with
  | nil => cases found
  | cons first rest ih =>
      rw [set]
      split
      · rename_i isIt
        have first : first = held := by simpa [find?, isIt] using found
        rw [if_pos (first ▸ same)]
      · rename_i isNot
        have later : find? new.type rest = some held := by simpa [find?, isNot] using found
        rw [ih later]

theorem said_set (new : Condition) (conditions : List Condition) :
    new.Said (set new conditions).1 := by
  induction conditions with
  | nil => exact ⟨new, by simp [set, find?], saysSame_self new⟩
  | cons first rest ih =>
      rw [set]
      split
      · rename_i isIt
        split
        · exact ⟨first, by simp [find?, isIt], ‹_›⟩
        · exact ⟨first.revise new, by simp [find?, revise], saysSame_revise first new⟩
      · rename_i isNot
        rcases ih with ⟨held, found, same⟩
        refine ⟨held, ?_, same⟩
        simpa [find?, isNot] using found

theorem isTrue_iff_of_said (said : new.Said conditions) :
    isTrue new.type conditions ↔ new.status = .holds := by
  rcases said with ⟨held, found, same⟩
  simp only [saysSame, Bool.and_eq_true, decide_eq_true_eq] at same
  simp [isTrue, found, same.1.1]

theorem find?_set_of_ne (ne : new.type ≠ type) (conditions : List Condition) :
    find? type (set new conditions).1 = find? type conditions := by
  induction conditions with
  | nil => simp [set, find?, ne]
  | cons first rest ih =>
      rw [set]
      split
      · rename_i isIt
        have apart : first.type ≠ type := fun same => ne (isIt.symm.trans same)
        split
        · rfl
        · simp [find?, revise, ne, apart]
      · simp only [find?, List.find?_cons] at ih ⊢
        rw [ih]

theorem find?_remove_of_ne {removed : String} (ne : removed ≠ type) (conditions : List Condition) :
    find? type (remove removed conditions).1 = find? type conditions := by
  dsimp only [remove, find?]
  rw [List.find?_filter]
  congr 1
  funext condition
  by_cases here : condition.type = type
  · simp [here, Ne.symm ne]
  · simp [here]

/-- What is said of one type is no matter of the others. -/
theorem Said.set (said : new.Said conditions) (ne : other.type ≠ new.type) :
    new.Said (set other conditions).1 := by
  rcases said with ⟨held, found, same⟩
  exact ⟨held, (find?_set_of_ne ne conditions).trans found, same⟩

theorem Said.remove (said : new.Said conditions) (ne : type ≠ new.type) :
    new.Said (remove type conditions).1 := by
  rcases said with ⟨held, found, same⟩
  exact ⟨held, (find?_remove_of_ne ne conditions).trans found, same⟩

theorem remove_remove (type : String) (conditions : List Condition) :
    (Condition.remove type (Condition.remove type conditions).1).1 =
      (Condition.remove type conditions).1 := by
  dsimp only [Condition.remove]
  rw [List.filter_filter]
  simp

theorem successType_ne_errorType : successType ≠ errorType := by decide

/-- A success that is recorded is not recorded again. -/
theorem markSuccess_markSuccess (now later : Instant) (conditions : List Condition) :
    markSuccess later (markSuccess now conditions) = markSuccess now conditions := by
  dsimp only [markSuccess]
  rw [set_of_said]
  · exact remove_remove _ _
  · refine Said.remove ?_ successType_ne_errorType.symm
    exact said_set
      { type := successType, status := .holds, reason := _, message := _, since := now } conditions

/-- An error that is recorded is not recorded again. -/
theorem markError_markError (reason message : String) (now later : Instant)
    (conditions : List Condition) :
    markError reason message later (markError reason message now conditions) =
      markError reason message now conditions := by
  have error : Said { type := errorType, status := .holds, reason, message, since := later }
      (markError reason message now conditions) := by
    refine Said.set ?_ successType_ne_errorType
    exact said_set { type := errorType, status := .holds, reason, message, since := now } conditions
  have success : Said
      { type := successType, status := .fails, reason, message := "", since := later }
      (markError reason message now conditions) :=
    said_set { type := successType, status := .fails, reason, message := "", since := now } _
  rw [markError]
  rw [set_of_said error, set_of_said success]

/-- A success is not said to hold once an error is recorded. -/
theorem isTrue_markError (reason message : String) (now : Instant) (conditions : List Condition) :
    isTrue successType (markError reason message now conditions) = false := by
  have said : Said { type := successType, status := .fails, reason, message := "", since := now }
      (markError reason message now conditions) :=
    said_set _ _
  refine Bool.eq_false_iff.mpr fun holds => ?_
  cases (isTrue_iff_of_said said).mp holds

theorem isTrue_markSuccess (now : Instant) (conditions : List Condition) :
    isTrue successType (markSuccess now conditions) := by
  let success : Condition :=
    { type := successType, status := .holds, reason := "ReconcileSuccess", message := "",
      since := now }
  have said : success.Said (markSuccess now conditions) := by
    apply Said.remove
    · exact said_set success conditions
    · exact successType_ne_errorType.symm
  exact (isTrue_iff_of_said said).mpr rfl

theorem find?_markSuccess (now : Instant) (conditions : List Condition) :
    find? errorType (markSuccess now conditions) = none := by
  simp [find?, markSuccess, remove]

/-- What a success leaves alone stays said. -/
theorem Said.markSuccess (said : new.Said conditions) (noSuccess : successType ≠ new.type)
    (noError : errorType ≠ new.type) (now : Instant) : new.Said (markSuccess now conditions) :=
  (said.set noSuccess).remove noError

end ClusterOperator.Condition

/-! ## Conditions without their times -/

namespace ClusterOperator.Condition

variable {change : Instant → List Condition → List Condition}

/-- The condition without its time. -/
def undated (condition : Condition) : Condition := { condition with since := default }

/-- What is written differs with the time in nothing but the times, and what changes nothing at one
time changes nothing at any. -/
structure Timeless (change : Instant → List Condition → List Condition) : Prop where
  same : ∀ now later conditions,
    (change now conditions).map undated = (change later conditions).map undated
  idle : ∀ now later conditions, change now conditions = conditions →
    change later conditions = conditions

theorem set_undated (new : Condition) (conditions : List Condition) :
    (set new conditions).1.map undated = (set new.undated (conditions.map undated)).1 := by
  induction conditions with
  | nil => rfl
  | cons held rest ih =>
      rw [List.map_cons, set, set]
      have sameType : held.undated.type = new.undated.type ↔ held.type = new.type := Iff.rfl
      by_cases isIt : held.type = new.type
      · rw [if_pos isIt, if_pos (sameType.mpr isIt)]
        have sameWords : held.undated.saysSame new.undated = held.saysSame new := rfl
        rw [sameWords]
        split
        · rfl
        · dsimp only [List.map_cons, revise, undated]
          split <;> rfl
      · rw [if_neg isIt, if_neg fun same => isIt (sameType.mp same)]
        exact congrArg (held.undated :: ·) ih

theorem remove_undated (type : String) (conditions : List Condition) :
    (remove type conditions).1.map undated = (remove type (conditions.map undated)).1 := by
  dsimp only [remove]
  rw [List.filter_map]
  rfl

theorem timeless_markError (reason message : String) : Timeless (markError reason message) where
  same now later conditions := by
    dsimp only [markError]
    simp only [set_undated]
    rfl
  idle now later conditions unchanged := by
    rw [← unchanged]
    exact markError_markError reason message now later conditions

/-- A condition that is set together with a success. -/
theorem timeless_markSuccess_set {new : Instant → Condition} {type : String}
    (same : ∀ now later, (new now).undated = (new later).undated)
    (isOf : ∀ now, (new now).type = type) (noSuccess : successType ≠ type)
    (noError : errorType ≠ type) :
    Timeless fun now conditions => markSuccess now (set (new now) conditions).1 where
  same now later conditions := by
    dsimp only [markSuccess]
    simp only [remove_undated, set_undated]
    rw [same now later]
    rfl
  idle now later conditions unchanged := by
    have said : (new now).Said conditions := by
      have written := (said_set (new now) conditions).markSuccess
        (fun is => noSuccess (is.trans (isOf now))) (fun is => noError (is.trans (isOf now))) now
      rw [unchanged] at written
      exact written
    have saidLater : (new later).Said conditions := by
      rcases said with ⟨held, found, agrees⟩
      have sameType : (new now).type = (new later).type := (isOf now).trans (isOf later).symm
      refine ⟨held, sameType ▸ found, ?_⟩
      have sameWords : held.saysSame (new later) = held.saysSame (new now) :=
        (congrArg held.saysSame (same later now) :)
      rw [sameWords]
      exact agrees
    rw [set_of_said saidLater]
    rw [set_of_said said] at unchanged
    rw [← unchanged]
    exact markSuccess_markSuccess now later conditions

end ClusterOperator.Condition
