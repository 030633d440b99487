import ClusterOperator.Proofs.Order.Upkeep
import ClusterOperator.Proofs.Program.Script
import ClusterOperator.Proofs.Run.Closing

/-!
# Passes that succeed

A pass says that earlier failures of its object no longer count. It says so in the end, when there
was nothing to do for the object, or when its body did not fail and what it changed is stored; in
all other cases it does not say so.
-/

namespace ClusterOperator

open Program

namespace Subject

/-- A pass leaves its object alone, or its body does not fail and its changes are stored, if there
are any. -/
def Succeeds (settings : Settings) (now : Instant) (subject : Subject) (calls : List Exchange) :
    Prop :=
  subject.Spared calls ∨ ∃ outcome written,
    subject.Closes settings now calls (.ok outcome) written ∧ written.getD (.ok ()) = .ok ()

/-- A pass stops for an error that only the user can mend. -/
def Blocked (settings : Settings) (now : Instant) (subject : Subject) (calls : List Exchange) :
    Prop :=
  ∃ outcome written error, subject.Closes settings now calls outcome written ∧
    settle outcome (written.getD (.ok ())) = .error error ∧ error.isPermanent

/-- A pass says in the end, and only there, that earlier failures no longer count, or it does not
succeed. -/
inductive Settles (settings : Settings) (now : Instant) (subject : Subject) :
    Script → Except Error Action → Prop
  | settled {front : Script} {action : Action} (unsettled : front.Unsettled)
      (succeeds : subject.Succeeds settings now front.calls) :
      Settles settings now subject (front ++ [.inr (.settled subject.failureKey)]) (.ok action)
  | unsettled {script : Script} {result : Except Error Action} (unsettled : script.Unsettled)
      (fails : ¬ subject.Succeeds settings now script.calls) :
      Settles settings now subject script result

end Subject

section Settling

variable {settings : Settings} {now : Instant} {subject : Subject} {calls : List Exchange}
  {script : Script} {outcome : Except Error Outcome} {written : Option (Except Error Unit)}

theorem settle_eq_ok_iff {write : Except Error Unit} {good : Outcome} :
    settle outcome write = .ok good ↔ outcome = .ok good ∧ write = .ok () := by
  cases outcome with
  | error error => simp [settle]
  | ok also =>
      cases write with
      | error error => simp [settle]
      | ok stored => simp [settle]

theorem Subject.Closes.succeeds_iff (closes : subject.Closes settings now calls outcome written) :
    subject.Succeeds settings now calls ↔
      ∃ good, settle outcome (written.getD (.ok ())) = .ok good := by
  simp only [settle_eq_ok_iff]
  constructor
  · rintro (spared | ⟨good, also, again, accepted⟩)
    · exact absurd closes spared.not_closes
    · rcases closes.unique again with ⟨rfl, rfl⟩
      exact ⟨good, rfl, accepted⟩
  · rintro ⟨good, rfl, accepted⟩
    exact .inr ⟨good, written, closes, accepted⟩

theorem Subject.Blocked.not_succeeds (blocked : subject.Blocked settings now calls) :
    ¬ subject.Succeeds settings now calls := by
  rcases blocked with ⟨outcome, written, error, closes, settled, permanent⟩
  rw [closes.succeeds_iff, settled]
  rintro ⟨good, ⟨⟩⟩

/-- What is settled is settled at the end of a pass that succeeds. -/
theorem Subject.Settles.of_settled {past later : Script} {key : String}
    {result : Except Error Action}
    (settles : subject.Settles settings now (past ++ .inr (.settled key) :: later) result) :
    later = [] ∧ key = subject.failureKey ∧ (∃ action, result = .ok action) ∧
      subject.Succeeds settings now past.calls := by
  generalize same : past ++ .inr (.settled key) :: later = script at settles
  cases settles with
  | settled unsettled succeeds =>
      rcases Script.eq_of_settled unsettled same with ⟨rfl, rfl, rfl⟩
      exact ⟨rfl, rfl, ⟨_, rfl⟩, succeeds⟩
  | unsettled unsettled fails => exact absurd (by simp [← same]) (unsettled key)

theorem Subject.Settles.of_succeeds {result : Except Error Action}
    (settles : subject.Settles settings now script result)
    (succeeds : subject.Succeeds settings now script.calls) :
    ∃ front, script = front ++ [.inr (.settled subject.failureKey)] := by
  cases settles with
  | settled unsettled also => exact ⟨_, rfl⟩
  | unsettled unsettled fails => exact absurd succeeds fails

theorem Script.unsettled_of_notes {α : Type} {program : Program α} {result : α}
    (notes : Notes (fun _ => False) program) (scripted : Scripted program script result) :
    script.Unsettled := fun _ there => notes.of_scripted scripted there

theorem scripted_conclude {failureKey : String} {result : Except Error Action}
    (scripted : Scripted (conclude failureKey outcome).run script result) :
    (∃ good action, outcome = .ok good ∧ script = [.inr (.settled failureKey)] ∧
      result = .ok action) ∨ (∃ error, outcome = .error error) ∧ script = [] := by
  cases outcome with
  | ok good =>
      rcases scripted with ⟨_, rfl, rfl, rfl⟩
      exact .inl ⟨good, _, rfl, rfl, rfl⟩
  | error error =>
      dsimp only [conclude] at scripted
      split at scripted
      · exact .inr ⟨⟨error, rfl⟩, scripted.1⟩
      · exact .inr ⟨⟨error, rfl⟩, scripted.1⟩

/-- A pass writes at its end if it has to, and then says what its outcome makes it say. -/
theorem closing_of_scripted {asks : Except Error Unit → Exchange} {write : Fallible Unit}
    {empty : Bool} {failureKey : String} {result : Except Error Action}
    (asked : ∀ script answer, Scripted write.run script answer → script = [.inl (asks answer)])
    (scripted : Scripted (do
      let written ← if empty then pure (.ok ()) else attempt write
      conclude failureKey (settle outcome written) : Fallible Action).run script result) :
    ∃ written last back, script = last.map .inl ++ back ∧ Closing empty asks last written ∧
      Scripted (conclude failureKey (settle outcome (written.getD (.ok ())))).run back result := by
  dsimp only at scripted
  split at scripted
  · exact ⟨none, [], script, rfl, .idle ‹_›, scripted⟩
  · rcases scripted.of_run_bind with ⟨_, back, answer, rfl, tried, rest⟩ | ⟨error, tried, _⟩
    · rcases tried.of_run_lift with ⟨_, tried, ⟨⟩⟩
      rw [asked _ _ tried]
      exact ⟨some answer, _, back, rfl, .wrote (eq_false_of_ne_true ‹_›) answer, rest⟩
    · rcases tried.of_run_lift with ⟨_, _, ⟨⟩⟩

/-- A pass does its work, and then writes what it changed. -/
theorem closing_of_scripted_body {α : Type} {body : Program (α × Except Error Outcome)}
    {asks : α × Except Error Outcome → Except Error Unit → Exchange}
    {write : α × Except Error Outcome → Fallible Unit} {empty : α × Except Error Outcome → Bool}
    {failureKey : String} {result : Except Error Action}
    (asked : ∀ left script answer, Scripted (write left).run script answer →
      script = [.inl (asks left answer)])
    (scripted : Scripted (do
      let left ← body
      let written ← if empty left then pure (.ok ()) else attempt (write left)
      conclude failureKey (settle left.2 written) : Fallible Action).run script result) :
    ∃ front left written last back, script = front ++ last.map .inl ++ back ∧
      Scripted body front left ∧ Closing (empty left) (asks left) last written ∧
      Scripted (conclude failureKey (settle left.2 (written.getD (.ok ())))).run back result := by
  rcases scripted.of_run_bind with ⟨front, rest, left, rfl, goes, ends⟩ | ⟨_, goes, _⟩
  · rcases goes.of_run_lift with ⟨_, goes, ⟨⟩⟩
    rcases closing_of_scripted (asked left) ends with ⟨written, last, back, rfl, closing, concluded⟩
    exact ⟨front, left, written, last, back, (List.append_assoc ..).symm, goes, closing, concluded⟩
  · rcases goes.of_run_lift with ⟨_, _, ⟨⟩⟩

theorem Subject.settles_of_closes {front back : Script} {result : Except Error Action}
    (unsettled : front.Unsettled) (closes : subject.Closes settings now front.calls outcome written)
    (scripted : Scripted
      (conclude subject.failureKey (settle outcome (written.getD (.ok ())))).run back result) :
    subject.Settles settings now (front ++ back) result := by
  rcases scripted_conclude scripted with ⟨good, action, settled, rfl, rfl⟩ | ⟨⟨error, failed⟩, rfl⟩
  · exact .settled unsettled (closes.succeeds_iff.mpr ⟨good, settled⟩)
  · rw [List.append_nil]
    refine .unsettled unsettled ?_
    rw [closes.succeeds_iff, failed]
    rintro ⟨good, ⟨⟩⟩

/-- The end of a pass that leaves its object alone. -/
theorem Subject.settles_of_leave {front back : Script} {result : Except Error Action}
    (unsettled : front.Unsettled) (spared : subject.Spared front.calls)
    (scripted : Scripted (leave subject.failureKey).run back result) :
    subject.Settles settings now (front ++ back) result := by
  rcases scripted with ⟨_, rfl, rfl, rfl⟩
  exact .settled unsettled (.inl spared)

theorem Script.unsettled_calls (calls : List Exchange) : Script.Unsettled (calls.map .inl) := by
  intro key there
  simp at there

@[simp]
theorem Script.calls_map (calls : List Exchange) : Script.calls (calls.map .inl) = calls := by
  induction calls with
  | nil => rfl
  | cons exchange rest ih => exact congrArg (exchange :: ·) ih

theorem Subject.not_succeeds_of_unread {request : StoreRequest} {error : Error} :
    ¬ subject.Succeeds settings now [.answered (.store request) (.error error)] := by
  rintro (spared | ⟨good, written, closes, accepted⟩)
  · cases spared
  · cases closes

theorem cluster_settles_of_scripted {key : ObjectKey} {result : Except Error Action}
    (scripted : Scripted (reconcileCluster settings now key).run script result) :
    (Subject.cluster key).Settles settings now script result := by
  dsimp only [reconcileCluster] at scripted
  rcases scripted.of_run_bind with ⟨_, after, found, rfl, asked, rest⟩ | ⟨error, asked, rfl⟩
  · rw [asked.of_run_ask]
    have read := Script.unsettled_calls [.answered (.store (.getCluster key)) (.ok found)]
    cases found with
    | none => exact Subject.settles_of_leave read .noCluster rest
    | some held =>
        dsimp only at rest
        split at rest
        · exact Subject.settles_of_leave read (.deletedCluster ‹_›) rest
        · rcases closing_of_scripted_body (fun _ _ _ => Scripted.of_run_ask) rest with
            ⟨front, left, written, last, back, rfl, goes, closing, concluded⟩
          rw [← List.append_assoc, ← List.append_assoc]
          refine Subject.settles_of_closes ?_ ?_ concluded
          · have quiet := Script.unsettled_of_notes (notes_clusterBody settings now key held) goes
            simp only [Script.unsettled_append]
            exact ⟨⟨read, quiet⟩, Script.unsettled_calls last⟩
          · simp only [Script.calls_append, Script.calls_map]
            exact .cluster (eq_false_of_ne_true ‹_›) goes.trace closing
  · rw [asked.of_run_ask]
    exact .unsettled (Script.unsettled_calls [_]) Subject.not_succeeds_of_unread

theorem namespace_settles_of_scripted {key : ObjectKey} {result : Except Error Action}
    (scripted : Scripted (reconcileNamespace settings now key).run script result) :
    (Subject.ns key).Settles settings now script result := by
  dsimp only [reconcileNamespace] at scripted
  rcases scripted.of_run_bind with ⟨_, after, found, rfl, asked, rest⟩ | ⟨error, asked, rfl⟩
  · rw [asked.of_run_ask]
    have read := Script.unsettled_calls [.answered (.store (.getNamespace key)) (.ok found)]
    have noted (entry : Note) (other : entry.isSettled = false) :
        Script.Unsettled ([.inl (.answered (.store (.getNamespace key)) (.ok found))] ++
          [.inr entry]) := by
      rw [Script.unsettled_append]
      refine ⟨read, fun also there => ?_⟩
      cases List.mem_singleton.mp there
      cases other
    cases found with
    | none =>
        rcases rest with ⟨later, rfl, left⟩
        rw [List.append_cons]
        exact Subject.settles_of_leave (noted (.unlisted key) rfl) .noNamespace left
    | some held =>
        rcases rest with ⟨later, rfl, rest⟩
        rcases closing_of_scripted_body (fun _ _ _ => Scripted.of_run_ask) rest with
          ⟨front, left, written, last, back, rfl, goes, closing, concluded⟩
        have quiet := Script.unsettled_of_notes (notes_namespaceBody settings now key held) goes
        rw [List.append_cons, ← List.append_assoc, ← List.append_assoc]
        refine Subject.settles_of_closes ?_ ?_ concluded
        · simp only [Script.unsettled_append] at noted ⊢
          exact ⟨⟨noted (.listed held) rfl, quiet⟩, Script.unsettled_calls last⟩
        · simp only [Script.calls_append, Script.calls_map]
          exact .ns goes.trace closing
  · rw [asked.of_run_ask]
    exact .unsettled (Script.unsettled_calls [_]) Subject.not_succeeds_of_unread

/-- Earlier failures count no longer after the passes that succeed, and after no others. -/
theorem Subject.settles_of_scripted {result : Except Error Action}
    (scripted : Scripted (subject.program settings now) script result) :
    subject.Settles settings now script result := by
  cases subject with
  | cluster key => exact cluster_settles_of_scripted scripted
  | ns key => exact namespace_settles_of_scripted scripted

end Settling

end ClusterOperator
