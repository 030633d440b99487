import ClusterOperator.Proofs.Condition.Ledger

/-!
# Conditions and their history

A list of conditions is changed in place by operations that write and remove entries. What it says
of a type after any number of them can be told from what was written under that type since the type
was last absent: the words are those written last, and the time is that of the first entry with the
status that has stood since.

The induction is on the single edits that the operations consist of, with what was written so far as
the invariant. That an entry says nothing new, and is therefore not written, makes no difference to
what the invariant says.
-/

namespace ClusterOperator.Condition

/-! ### Operations -/

/-- One change of one type: it is written, or removed. -/
inductive Edit where
  | write (new : Condition)
  | remove (type : String)

/-- What can be done to a list of conditions. A failure whose two entries carry different times is
two operations `set`. -/
inductive Operation where
  | set (new : Condition)
  | remove (type : String)
  | markSuccess (now : Instant)
  | markError (reason message : String) (now : Instant)

def Edit.type : Edit → String
  | write new => new.type
  | remove type => type

def Edit.apply (conditions : List Condition) : Edit → List Condition
  | write new => (Condition.set new conditions).1
  | remove type => (Condition.remove type conditions).1

namespace Operation

def apply (conditions : List Condition) : Operation → List Condition
  | set new => (Condition.set new conditions).1
  | remove type => (Condition.remove type conditions).1
  | markSuccess now => Condition.markSuccess now conditions
  | markError reason message now => Condition.markError reason message now conditions

/-- Whether the list changed, where the operation says so. -/
def answer? (conditions : List Condition) : Operation → Option Bool
  | set new => some (Condition.set new conditions).2
  | remove type => some (Condition.remove type conditions).2
  | markSuccess _ => none
  | markError _ _ _ => none

/-- What an operation does, type by type. -/
def edits : Operation → List Edit
  | set new => [.write new]
  | remove type => [.remove type]
  | markSuccess now =>
      [.write
          { type := successType, status := .holds, reason := "ReconcileSuccess", message := "",
            since := now },
        .remove errorType]
  | markError reason message now =>
      [.write { type := errorType, status := .holds, reason, message, since := now },
        .write { type := successType, status := .fails, reason, message := "", since := now }]

/-- The types that an operation is about. -/
def types (operation : Operation) : List String := operation.edits.map Edit.type

/-- The list after a number of operations, the first one first. -/
def applyAll (operations : List Operation) (initial : List Condition) : List Condition :=
  operations.foldl apply initial

end Operation

variable {new held : Condition} {conditions initial written : List Condition} {type : String}

/-! ### What was written -/

/-- What was written under a type since it was last absent, with one edit more. -/
def Edit.enter (type : String) (written : List Condition) : Edit → List Condition
  | write new => if new.type = type then written ++ [new] else written
  | remove removed => if removed = type then [] else written

/-- What was written under a type since it was last absent, in the order in which it was written. An
entry that was there in the beginning counts as written then. -/
def standing (type : String) (operations : List Operation) (initial : List Condition) :
    List Condition :=
  (operations.flatMap Operation.edits).foldl (Edit.enter type) (find? type initial).toList

/-- An entry has the words that were written last, and the time of the first entry of those that
have had its status in an unbroken row up to now: that one inserted the type or changed its
status. -/
structure Remembers (written : List Condition) (held : Condition) : Prop where
  words : ∃ last, written.getLast? = some last ∧ held.status = last.status ∧
    held.reason = last.reason ∧ held.message = last.message
  since : ∃ front first back, written = front ++ first :: back ∧ held.since = first.since ∧
    (∀ entry ∈ first :: back, entry.status = held.status) ∧
    ∀ before, front.getLast? = some before → before.status ≠ held.status

/-- What a list says of a type, given what was written under it since it was last absent. -/
def Accounts (written : List Condition) : Option Condition → Prop
  | none => written = []
  | some held => Remembers written held

theorem remembers_singleton (new : Condition) : Remembers [new] new where
  words := ⟨new, rfl, rfl, rfl, rfl⟩
  since := ⟨[], new, [], rfl, rfl, by simp, by simp⟩

/-- An entry that says what is written anew keeps its time, as the status stays. -/
theorem Remembers.again (remembers : Remembers written held) (same : held.saysSame new) :
    Remembers (written ++ [new]) held := by
  simp only [saysSame, Bool.and_eq_true, decide_eq_true_eq] at same
  rcases same with ⟨⟨status, reason⟩, message⟩
  rcases remembers.since with ⟨front, first, back, rfl, since, row, turn⟩
  constructor
  · exact ⟨new, List.getLast?_concat, status, reason, message⟩
  · refine ⟨front, first, back ++ [new], by simp, since, ?_, turn⟩
    intro entry there
    rw [← List.cons_append, List.mem_append, List.mem_singleton] at there
    rcases there with there | rfl
    · exact row entry there
    · exact status.symm

theorem Remembers.revise (remembers : Remembers written held) (new : Condition) :
    Remembers (written ++ [new]) (held.revise new) := by
  rcases remembers.since with ⟨front, first, back, rfl, since, row, turn⟩
  constructor
  · exact ⟨new, List.getLast?_concat, rfl, rfl, rfl⟩
  · by_cases status : held.status = new.status
    · refine ⟨front, first, back ++ [new], by simp, ?_, ?_, ?_⟩
      · simp [Condition.revise, status, since]
      · intro entry there
        rw [← List.cons_append, List.mem_append, List.mem_singleton] at there
        rcases there with there | rfl
        · exact (row entry there).trans status
        · rfl
      · intro before isLast
        have apart := turn before isLast
        rwa [status] at apart
    · refine ⟨front ++ first :: back, new, [], rfl, ?_, ?_, ?_⟩
      · simp [Condition.revise, status]
      · simp [Condition.revise]
      · intro before isLast
        -- The entry before the flip is the last one of the row that has had the old status.
        have inRow : before ∈ first :: back := by
          rw [List.getLast?_append, List.getLast?_cons, Option.some_or, ← List.getLast?_cons] at isLast
          exact List.mem_of_getLast? isLast
        rw [row before inRow]
        exact status

/-! ### What edits do -/

theorem find?_set_self (new : Condition) (conditions : List Condition) :
    find? new.type (Condition.set new conditions).1 = some (
      match find? new.type conditions with
      | none => new
      | some held => if held.saysSame new then held else held.revise new) := by
  induction conditions with
  | nil => simp [Condition.set, find?]
  | cons first rest ih =>
      rw [Condition.set]
      by_cases isIt : first.type = new.type
      · by_cases same : first.saysSame new
        · simp [find?, isIt, same]
        · simp [find?, isIt, same, revise]
      · simpa [find?, isIt] using ih

theorem find?_remove_self (type : String) (conditions : List Condition) :
    find? type (Condition.remove type conditions).1 = none := by
  simp [find?, Condition.remove]

/-- One edit more is accounted for, whatever its type. -/
theorem Accounts.edit (accounts : Accounts written (find? type conditions)) (edit : Edit) :
    Accounts (edit.enter type written) (find? type (edit.apply conditions)) := by
  cases edit with
  | write new =>
      by_cases isIt : new.type = type
      · subst isIt
        simp only [Edit.enter, Edit.apply, if_true, find?_set_self]
        cases found : find? new.type conditions with
        | none =>
            rw [found] at accounts
            simp only [Accounts] at accounts ⊢
            simpa [accounts] using remembers_singleton new
        | some held =>
            rw [found] at accounts
            by_cases same : held.saysSame new
            · simpa [Accounts, same] using accounts.again same
            · simpa [Accounts, same] using accounts.revise new
      · simpa [Edit.enter, Edit.apply, isIt, find?_set_of_ne] using accounts
  | remove removed =>
      by_cases isIt : removed = type
      · subst isIt
        simp [Edit.enter, Edit.apply, find?_remove_self, Accounts]
      · simpa [Edit.enter, Edit.apply, isIt, find?_remove_of_ne] using accounts

theorem Accounts.edits (accounts : Accounts written (find? type conditions)) (edits : List Edit) :
    Accounts (edits.foldl (Edit.enter type) written)
      (find? type (edits.foldl Edit.apply conditions)) := by
  induction edits generalizing written conditions with
  | nil => exact accounts
  | cons edit rest ih => exact ih (accounts.edit edit)

theorem accounts_find? (type : String) (conditions : List Condition) :
    Accounts (find? type conditions).toList (find? type conditions) := by
  cases find? type conditions with
  | none => rfl
  | some held => exact remembers_singleton held

/-- A list changes if and only if one of its entries says something else or is new. -/
theorem set_changed_iff (new : Condition) (conditions : List Condition) :
    (Condition.set new conditions).2 = true ↔ (Condition.set new conditions).1 ≠ conditions := by
  induction conditions with
  | nil => simp [Condition.set]
  | cons first rest ih =>
      rw [Condition.set]
      by_cases isIt : first.type = new.type
      · by_cases same : first.saysSame new
        · simp [isIt, same]
        · -- what says something else is another entry
          have other : first.revise new ≠ first := by
            intro unchanged
            apply same
            rw [← unchanged]
            exact saysSame_revise first new
          simp [isIt, same, other]
      · simp [isIt, ih]

theorem remove_changed_iff (type : String) (conditions : List Condition) :
    (Condition.remove type conditions).2 = true ↔
      (Condition.remove type conditions).1 ≠ conditions := by
  simp only [Condition.remove, ne_eq, decide_eq_true_eq]
  apply not_congr
  constructor
  · intro sameLength
    exact List.filter_sublist.eq_of_length sameLength
  · intro unchanged
    rw [unchanged]

theorem filter_set {keeps : Condition → Bool} (blind : ∀ entry, entry.type = new.type →
    keeps entry = false) (conditions : List Condition) :
    (Condition.set new conditions).1.filter keeps = conditions.filter keeps := by
  induction conditions with
  | nil => simp [Condition.set, blind]
  | cons first rest ih =>
      rw [Condition.set]
      by_cases isIt : first.type = new.type
      · by_cases same : first.saysSame new
        · simp [isIt, same]
        · simp [isIt, same, blind, revise]
      · simp [isIt, List.filter_cons, ih]

theorem filter_remove {keeps : Condition → Bool} (blind : ∀ entry, entry.type = type →
    keeps entry = false) (conditions : List Condition) :
    (Condition.remove type conditions).1.filter keeps = conditions.filter keeps := by
  simp only [Condition.remove, List.filter_filter]
  apply List.filter_congr
  intro entry _
  by_cases isIt : entry.type = type
  · simp [isIt, blind]
  · simp [isIt]

/-- The entries of other types stay what they are, in their order. -/
theorem Edit.filter_apply (edit : Edit) {keeps : Condition → Bool}
    (blind : ∀ entry, entry.type = edit.type → keeps entry = false) (conditions : List Condition) :
    (edit.apply conditions).filter keeps = conditions.filter keeps := by
  cases edit with
  | write new => exact filter_set blind conditions
  | remove type => exact filter_remove blind conditions

theorem Distinct.edit (distinct : Distinct conditions) (edit : Edit) :
    Distinct (edit.apply conditions) := by
  cases edit with
  | write new => exact distinct.set new
  | remove type => exact distinct.remove type

theorem Distinct.edits (distinct : Distinct conditions) (edits : List Edit) :
    Distinct (edits.foldl Edit.apply conditions) := by
  induction edits generalizing conditions with
  | nil => exact distinct
  | cons edit rest ih => exact ih (distinct.edit edit)

theorem filter_edits {keeps : Condition → Bool} {edits : List Edit}
    (blind : ∀ edit ∈ edits, ∀ entry : Condition, entry.type = edit.type → keeps entry = false)
    (conditions : List Condition) :
    (edits.foldl Edit.apply conditions).filter keeps = conditions.filter keeps := by
  induction edits generalizing conditions with
  | nil => rfl
  | cons edit rest ih =>
      rw [List.foldl_cons, ih fun later there => blind later (List.mem_cons_of_mem _ there)]
      exact edit.filter_apply (blind edit (List.mem_cons_self ..)) conditions

/-! ### What operations do -/

namespace Operation

theorem apply_eq_edits (operation : Operation) (conditions : List Condition) :
    operation.apply conditions = operation.edits.foldl Edit.apply conditions := by
  cases operation <;> rfl

theorem applyAll_eq_edits (operations : List Operation) (initial : List Condition) :
    applyAll operations initial = (operations.flatMap edits).foldl Edit.apply initial := by
  induction operations generalizing initial with
  | nil => rfl
  | cons operation rest ih =>
      rw [List.flatMap_cons, List.foldl_append, ← apply_eq_edits]
      exact ih (operation.apply initial)

theorem filter_apply (operation : Operation) (conditions : List Condition) :
    (operation.apply conditions).filter (·.type ∉ operation.types) =
      conditions.filter (·.type ∉ operation.types) := by
  rw [apply_eq_edits]
  apply filter_edits
  intro edit there entry isIt
  have among : entry.type ∈ operation.types := isIt ▸ List.mem_map_of_mem there
  simp [among]

theorem answer_iff {operation : Operation} {changed : Bool}
    (answers : operation.answer? conditions = some changed) :
    changed = true ↔ operation.apply conditions ≠ conditions := by
  cases operation with
  | set new =>
      cases answers
      exact set_changed_iff new conditions
  | remove type =>
      cases answers
      exact remove_changed_iff type conditions
  | markSuccess now => cases answers
  | markError reason message now => cases answers

end Operation

/-- Where the types of a list are pairwise different in the beginning they always are. The list has
an entry of a type if and only if something was written under that type since it was last absent;
the entry has the words that were written last, and the time of what inserted it or last changed its
status. An operation that says whether it changed the list is right, and none touches entries of
other types than its own. -/
theorem history_of_operations (distinct : Distinct initial) (operations : List Operation) :
    Distinct (Operation.applyAll operations initial) ∧
      (∀ type, Accounts (standing type operations initial)
        (find? type (Operation.applyAll operations initial))) ∧
      ∀ front operation back, operations = front ++ operation :: back →
        let before := Operation.applyAll front initial
        (∀ changed, operation.answer? before = some changed →
          (changed = true ↔ operation.apply before ≠ before)) ∧
        (operation.apply before).filter (·.type ∉ operation.types) =
          before.filter (·.type ∉ operation.types) := by
  rw [Operation.applyAll_eq_edits]
  refine ⟨distinct.edits _, ?_, ?_⟩
  · intro type
    exact (accounts_find? type initial).edits _
  · intro front operation back _ before
    exact ⟨fun changed answers => Operation.answer_iff answers, operation.filter_apply before⟩

/-- An object that was ready, whose rollout then failed once and is still going on. -/
def rollout : List Operation :=
  [.markError "ReconcileError" "boom" ⟨1, 0⟩,
    .set { type := readyType, status := .fails, reason := "ServicesNotReady",
           message := "waiting for history, worker", since := ⟨2, 0⟩ },
    .markSuccess ⟨2, 0⟩,
    .set { type := readyType, status := .fails, reason := "ServicesNotReady",
           message := "waiting for worker", since := ⟨3, 0⟩ },
    .markSuccess ⟨3, 0⟩]

/-- The object has not been ready since the second of these times, and has had no error since. -/
theorem history_of_rollout :
    let initial : List Condition :=
      [{ type := readyType, status := .holds, reason := "ServicesReady", message := "",
         since := ⟨0, 0⟩ }]
    let waiting : Condition :=
      { type := readyType, status := .fails, reason := "ServicesNotReady",
        message := "waiting for worker", since := ⟨2, 0⟩ }
    Distinct initial ∧ find? readyType (Operation.applyAll rollout initial) = some waiting ∧
      Remembers (standing readyType rollout initial) waiting ∧
      standing errorType rollout initial = [] := by
  intro initial waiting
  have distinct : Distinct initial := List.pairwise_singleton _ _
  have accounts := (history_of_operations distinct rollout).2.1 readyType
  have found : find? readyType (Operation.applyAll rollout initial) = some waiting := by decide
  rw [found] at accounts
  exact ⟨distinct, found, accounts, by decide⟩

end ClusterOperator.Condition
