import ClusterOperator.Proofs.Program.Notes
import ClusterOperator.Proofs.Program.Trace

/-!
# Scripts

The ways through a program with all that it does on them: the requests that it makes and what it
writes down, in their order. A trace is what a script says of the requests.
-/

namespace ClusterOperator

/-- Requests with what came of them, and what is written down between them. -/
abbrev Script := List (Exchange ⊕ Note)

/-- The requests of a script. -/
def Script.calls (script : Script) : List Exchange := script.filterMap Sum.getLeft?

/-- Nothing in a script says that earlier failures no longer count. -/
def Script.Unsettled (script : Script) : Prop := ∀ key, .inr (.settled key) ∉ script

namespace Script

variable {first second : Script}

@[simp]
theorem calls_append : (first ++ second).calls = first.calls ++ second.calls := by
  simp [calls]

theorem unsettled_append : (first ++ second).Unsettled ↔ first.Unsettled ∧ second.Unsettled := by
  simp only [Unsettled, List.mem_append, not_or, forall_and]

/-- Where nothing is settled before the end, nothing comes after what is settled. -/
theorem eq_of_settled {front past later : Script} {key failureKey : String}
    (unsettled : front.Unsettled)
    (same : past ++ .inr (.settled key) :: later = front ++ [.inr (.settled failureKey)]) :
    past = front ∧ key = failureKey ∧ later = [] := by
  rcases List.eq_nil_or_concat later with rfl | ⟨middle, last, rfl⟩
  · rcases List.append_inj' same rfl with ⟨isFront, isLast⟩
    cases isLast
    exact ⟨isFront, rfl, rfl⟩
  · rw [List.concat_eq_append, ← List.cons_append, ← List.append_assoc] at same
    rcases List.append_inj' same rfl with ⟨rfl, _⟩
    exact absurd (by simp) (unsettled key)

end Script

namespace Program

variable {α β : Type}

/-- A program comes to a value by doing this. -/
def Scripted : Program α → Script → α → Prop
  | done value, script, result => script = [] ∧ result = value
  | note entry rest, script, result => ∃ later, script = .inr entry :: later ∧
      Scripted rest later result
  | call request next, script, result =>
      ∃ answer later, script = .inl (.answered request answer) :: later ∧
        Scripted (next answer) later result
  | timed request cut next, script, result =>
      (∃ later, script = .inl (.cut request) :: later ∧ Scripted cut later result) ∨
        ∃ answer later, script = .inl (.answered request answer) :: later ∧
          Scripted (next answer) later result

variable {script : Script}

theorem Scripted.trace {program : Program α} {result : α}
    (scripted : Scripted program script result) : Trace program script.calls result := by
  induction program generalizing script with
  | done value =>
      rcases scripted with ⟨rfl, rfl⟩
      exact ⟨rfl, rfl⟩
  | note entry rest ih =>
      rcases scripted with ⟨later, rfl, scripted⟩
      have trace := ih scripted
      exact trace
  | call request next ih =>
      rcases scripted with ⟨answer, later, rfl, scripted⟩
      exact ⟨answer, Script.calls later, rfl, ih answer scripted⟩
  | timed request cut next cutIh nextIh =>
      rcases scripted with ⟨later, rfl, scripted⟩ | ⟨answer, later, rfl, scripted⟩
      · exact .inl ⟨Script.calls later, rfl, cutIh scripted⟩
      · exact .inr ⟨answer, Script.calls later, rfl, nextIh answer scripted⟩

/-- There is a way through every program. -/
theorem exists_scripted (program : Program α) :
    ∃ script result, Scripted program script result := by
  let refuse : Replies := fun _ => .error (.serialization "")
  induction program with
  | done value => exact ⟨[], value, rfl, rfl⟩
  | note entry rest ih =>
      rcases ih with ⟨script, result, scripted⟩
      exact ⟨_, result, script, rfl, scripted⟩
  | call request next ih =>
      rcases ih (refuse request) with ⟨script, result, scripted⟩
      exact ⟨_, result, _, script, rfl, scripted⟩
  | timed request cut next cutIh nextIh =>
      rcases cutIh with ⟨script, result, scripted⟩
      exact ⟨_, result, .inl ⟨script, rfl, scripted⟩⟩

/-- A program whose ways are all empty has come to its end. -/
theorem eq_done_of_scripted {program : Program α}
    (empty : ∀ script result, Scripted program script result → script = []) :
    ∃ value, program = done value := by
  cases program with
  | done value => exact ⟨value, rfl⟩
  | note entry rest =>
      rcases exists_scripted rest with ⟨script, result, scripted⟩
      cases empty _ result ⟨script, rfl, scripted⟩
  | call request next =>
      rcases exists_scripted (call request next) with ⟨_, result, answer, later, rfl, scripted⟩
      cases empty _ result ⟨answer, later, rfl, scripted⟩
  | timed request cut next =>
      rcases exists_scripted cut with ⟨script, result, scripted⟩
      cases empty _ result (.inl ⟨script, rfl, scripted⟩)

theorem Scripted.of_bind {program : Program α} {after : α → Program β} {result : β}
    (scripted : Scripted (program >>= after) script result) :
    ∃ front back value, script = front ++ back ∧ Scripted program front value ∧
      Scripted (after value) back result := by
  change Scripted (program.bind after) script result at scripted
  induction program generalizing script with
  | done value => exact ⟨[], script, value, rfl, ⟨rfl, rfl⟩, scripted⟩
  | note entry rest ih =>
      rcases scripted with ⟨later, rfl, scripted⟩
      rcases ih scripted with ⟨front, back, value, rfl, first, second⟩
      exact ⟨_ :: front, back, value, rfl, ⟨front, rfl, first⟩, second⟩
  | call request next ih =>
      rcases scripted with ⟨answer, later, rfl, scripted⟩
      rcases ih answer scripted with ⟨front, back, value, rfl, first, second⟩
      exact ⟨_ :: front, back, value, rfl, ⟨answer, front, rfl, first⟩, second⟩
  | timed request cut next cutIh nextIh =>
      rcases scripted with ⟨later, rfl, scripted⟩ | ⟨answer, later, rfl, scripted⟩
      · rcases cutIh scripted with ⟨front, back, value, rfl, first, second⟩
        exact ⟨_ :: front, back, value, rfl, .inl ⟨front, rfl, first⟩, second⟩
      · rcases nextIh answer scripted with ⟨front, back, value, rfl, first, second⟩
        exact ⟨_ :: front, back, value, rfl, .inr ⟨answer, front, rfl, first⟩, second⟩

/-- What a program writes down, it writes down on its ways. -/
theorem Notes.of_scripted {kind : Note → Prop} {program : Program α} {result : α}
    (notes : Notes kind program) (scripted : Scripted program script result) {entry : Note}
    (there : .inr entry ∈ script) : kind entry := by
  induction program generalizing script with
  | done value =>
      rcases scripted with ⟨rfl, rfl⟩
      cases there
  | note also rest ih =>
      rcases scripted with ⟨later, rfl, scripted⟩
      rcases List.mem_cons.mp there with same | there
      · cases same
        exact notes.1
      · exact ih notes.2 scripted there
  | call request next ih =>
      rcases scripted with ⟨answer, later, rfl, scripted⟩
      have there : .inr entry ∈ later := by simpa using there
      exact ih answer (notes answer) scripted there
  | timed request cut next cutIh nextIh =>
      rcases scripted with ⟨later, rfl, scripted⟩ | ⟨answer, later, rfl, scripted⟩
      · have there : .inr entry ∈ later := by simpa using there
        exact cutIh notes.1 scripted there
      · have there : .inr entry ∈ later := by simpa using there
        exact nextIh answer (notes.2 answer) scripted there

/-! ### Programs that may stop with an error -/

theorem Scripted.of_run_bind {program : Fallible α} {after : α → Fallible β}
    {result : Except Error β} (scripted : Scripted (program >>= after).run script result) :
    (∃ front back value, script = front ++ back ∧ Scripted program.run front (.ok value) ∧
      Scripted (after value).run back result) ∨
    ∃ error, Scripted program.run script (.error error) ∧ result = .error error := by
  rw [ExceptT.run_bind] at scripted
  rcases scripted.of_bind with ⟨front, back, value | value, rfl, first, second⟩
  · rcases second with ⟨rfl, rfl⟩
    rw [List.append_nil]
    exact .inr ⟨value, first, rfl⟩
  · exact .inl ⟨front, back, value, rfl, first, second⟩

theorem Scripted.of_run_ask {request : Request} {result : Except Error request.Answer}
    (scripted : Scripted (ask request).run script result) :
    script = [.inl (.answered request result)] := by
  rcases scripted with ⟨answer, later, rfl, rfl, rfl⟩
  rfl

theorem Scripted.of_run_lift {program : Program β} {result : Except Error β}
    (scripted : Scripted (liftM program : Fallible β).run script result) :
    ∃ value, Scripted program script value ∧ result = .ok value := by
  change Scripted (ExceptT.lift program).run script result at scripted
  rw [ExceptT.run_lift, map_eq_pure_bind] at scripted
  rcases scripted.of_bind with ⟨front, _, value, rfl, first, rfl, rfl⟩
  rw [List.append_nil]
  exact ⟨value, first, rfl⟩

end Program

end ClusterOperator
