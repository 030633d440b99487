import ClusterOperator.Proofs.Namespace.Conversation

/-!
# How passes end

A pass records what came of it and writes that in one patch at its end. Where the patch is refused,
a pass that went well fails with the refusal, and one that failed fails with its own error, so that
the operator tries again in either case. But an error that only the user can mend is no failure of
the pass: it waits for a change of the object, also where the patch that was to tell the user of the
error is the one that was refused.
-/

namespace ClusterOperator

open Program

namespace Subject

/-- The calls of a pass over an object that it does not touch: there is none, or it is a cluster
that is being deleted. -/
inductive Spared : Subject → List Exchange → Prop
  | noCluster {key : ObjectKey} :
      Spared (.cluster key) [.answered (.store (.getCluster key)) (.ok none)]
  | deletedCluster {key : ObjectKey} {held : Cluster} (deleting : held.metadata.isDeleting) :
      Spared (.cluster key) [.answered (.store (.getCluster key)) (.ok (some held))]
  | noNamespace {key : ObjectKey} :
      Spared (.ns key) [.answered (.store (.getNamespace key)) (.ok none)]

/-- The calls of a pass over an object that it read, with what came of its body and, where there was
something to write at the end, with what became of that. -/
inductive Closes (settings : Settings) (now : Instant) :
    Subject → List Exchange → Except Error Outcome → Option (Except Error Unit) → Prop
  | cluster {key : ObjectKey} {held changed : Cluster} {outcome : Except Error Outcome}
      {written : Option (Except Error Unit)} {body last : List Exchange}
      (alive : held.metadata.isDeleting = false)
      (goes : Trace (clusterBody settings now key held) body (changed, outcome))
      (closing : Closing (ObjectPatch.between held (changed.record now outcome)).isEmpty
        (fun answer =>
          .answered
            (.store (.patchCluster key (.between held (changed.record now outcome)))) answer)
        last written) :
      Closes settings now (.cluster key)
        (.answered (.store (.getCluster key)) (.ok (some held)) :: (body ++ last)) outcome written
  | ns {key : ObjectKey} {held changed : Namespace} {outcome : Except Error Outcome}
      {written : Option (Except Error Unit)} {body last : List Exchange}
      (goes : Trace (namespaceBody settings now key held) body (changed, outcome))
      (closing : Closing (ObjectPatch.between held (changed.record now outcome)).isEmpty
        (fun answer =>
          .answered
            (.store (.patchNamespace key (.between held (changed.record now outcome)))) answer)
        last written) :
      Closes settings now (.ns key)
        (.answered (.store (.getNamespace key)) (.ok (some held)) :: (body ++ last)) outcome written

end Subject

section Endings

variable {settings : Settings} {now : Instant} {subject : Subject} {calls last : List Exchange}
  {outcome : Except Error Outcome} {written : Option (Except Error Unit)} {empty : Bool}
  {asks : Except Error Unit → Exchange}

theorem clusterEnds_of_trace {key : ObjectKey} {result : Except Error Action}
    (trace : Trace (reconcileCluster settings now key).run calls result) :
    (∃ error, calls = [.answered (.store (.getCluster key)) (.error error)] ∧
      result = .error error) ∨
    ((Subject.cluster key).Spared calls ∧ result = .ok .awaitChange) ∨
    ∃ outcome written, (Subject.cluster key).Closes settings now calls outcome written ∧
      result = conclusion (settle outcome (written.getD (.ok ()))) := by
  dsimp only [reconcileCluster] at trace
  rcases trace_run_bind.mp trace with ⟨_, after, found, rfl, asked, rest⟩ | ⟨error, asked, rfl⟩
  · rw [trace_run_ask.mp asked]
    cases found with
    | none =>
        rcases (rest : after = [] ∧ result = .ok .awaitChange) with ⟨rfl, rfl⟩
        exact .inr (.inl ⟨.noCluster, rfl⟩)
    | some held =>
        dsimp only at rest
        split at rest
        · rcases (rest : after = [] ∧ result = .ok .awaitChange) with ⟨rfl, rfl⟩
          exact .inr (.inl ⟨.deletedCluster ‹_›, rfl⟩)
        · rcases trace_run_bind.mp rest with ⟨body, last, ⟨changed, outcome⟩, rfl, goes, ends⟩ |
            ⟨_, goes, _⟩
          · rcases trace_run_lift.mp goes with ⟨_, goes, ⟨⟩⟩
            rcases closing_of_trace (fun calls answer => trace_run_ask.mp) ends with
              ⟨written, closing, isResult⟩
            have closes : (Subject.cluster key).Closes settings now
                (.answered (.store (.getCluster key)) (.ok (some held)) :: (body ++ last)) outcome
                written :=
              .cluster (eq_false_of_ne_true ‹_›) goes closing
            exact .inr (.inr ⟨outcome, written, closes, isResult⟩)
          · rcases trace_run_lift.mp goes with ⟨_, _, ⟨⟩⟩
  · rw [trace_run_ask.mp asked]
    exact .inl ⟨error, rfl, rfl⟩

theorem namespaceEnds_of_trace {key : ObjectKey} {result : Except Error Action}
    (trace : Trace (reconcileNamespace settings now key).run calls result) :
    (∃ error, calls = [.answered (.store (.getNamespace key)) (.error error)] ∧
      result = .error error) ∨
    ((Subject.ns key).Spared calls ∧ result = .ok .awaitChange) ∨
    ∃ outcome written, (Subject.ns key).Closes settings now calls outcome written ∧
      result = conclusion (settle outcome (written.getD (.ok ()))) := by
  dsimp only [reconcileNamespace] at trace
  rcases trace_run_bind.mp trace with ⟨_, after, found, rfl, asked, rest⟩ | ⟨error, asked, rfl⟩
  · rw [trace_run_ask.mp asked]
    cases found with
    | none =>
        rcases (rest : after = [] ∧ result = .ok .awaitChange) with ⟨rfl, rfl⟩
        exact .inr (.inl ⟨.noNamespace, rfl⟩)
    | some held =>
        have rest : Trace (do
            let left ← namespaceBody settings now key held
            let patch := ObjectPatch.between held (left.1.record now left.2)
            let written ←
              if patch.isEmpty then pure (.ok ())
                else attempt (askStore (.patchNamespace key patch))
            conclude (Namespace.failureKey key) (settle left.2 written) : Fallible Action).run
            after result := rest
        rcases trace_run_bind.mp rest with ⟨body, last, ⟨changed, outcome⟩, rfl, goes, ends⟩ |
          ⟨_, goes, _⟩
        · rcases trace_run_lift.mp goes with ⟨_, goes, ⟨⟩⟩
          rcases closing_of_trace (fun calls answer => trace_run_ask.mp) ends with
            ⟨written, closing, isResult⟩
          have closes : (Subject.ns key).Closes settings now
              (.answered (.store (.getNamespace key)) (.ok (some held)) :: (body ++ last)) outcome
              written :=
            .ns goes closing
          exact .inr (.inr ⟨outcome, written, closes, isResult⟩)
        · rcases trace_run_lift.mp goes with ⟨_, _, ⟨⟩⟩
  · rw [trace_run_ask.mp asked]
    exact .inl ⟨error, rfl, rfl⟩

/-- A pass fails to read its object, or leaves it alone, or goes through its body and its write. -/
theorem ends_of_trace {result : Except Error Action}
    (trace : Trace (subject.program settings now) calls result) :
    (∃ error, result = .error error ∧ ∀ outcome written,
      ¬ subject.Closes settings now calls outcome written) ∨
    (subject.Spared calls ∧ result = .ok .awaitChange) ∨
    ∃ outcome written, subject.Closes settings now calls outcome written ∧
      result = conclusion (settle outcome (written.getD (.ok ()))) := by
  cases subject with
  | cluster key =>
      refine (clusterEnds_of_trace trace).imp ?_ id
      rintro ⟨error, rfl, isError⟩
      refine ⟨error, isError, ?_⟩
      rintro outcome written ⟨⟩
  | ns key =>
      refine (namespaceEnds_of_trace trace).imp ?_ id
      rintro ⟨error, rfl, isError⟩
      refine ⟨error, isError, ?_⟩
      rintro outcome written ⟨⟩

/-- The calls of a pass say what came of its body and of its write. -/
theorem Subject.Closes.unique {result : Except Error Outcome} {also : Option (Except Error Unit)}
    (closes : subject.Closes settings now calls outcome written)
    (again : subject.Closes settings now calls result also) :
    outcome = result ∧ written = also := by
  cases closes with
  | @cluster key held changed outcome written body last alive goes closing =>
      generalize isIt : Exchange.answered _ _ :: (body ++ last) = calls at again
      cases again with
      | cluster stillAlive alsoGoes closes =>
          rw [List.cons.injEq] at isIt
          rcases isIt with ⟨⟨⟩, same⟩
          rcases goes.unique alsoGoes same with ⟨rfl, rfl, ⟨⟩⟩
          refine ⟨rfl, closing.unique ?_ closes⟩
          rintro one other ⟨⟩
          rfl
  | @ns key held changed outcome written body last goes closing =>
      generalize isIt : Exchange.answered _ _ :: (body ++ last) = calls at again
      cases again with
      | ns alsoGoes closes =>
          rw [List.cons.injEq] at isIt
          rcases isIt with ⟨⟨⟩, same⟩
          rcases goes.unique alsoGoes same with ⟨rfl, rfl, ⟨⟩⟩
          refine ⟨rfl, closing.unique ?_ closes⟩
          rintro one other ⟨⟩
          rfl

theorem Subject.Spared.not_closes (spared : subject.Spared calls) :
    ¬ subject.Closes settings now calls outcome written := by
  intro closes
  generalize same : calls = asked at closes
  cases closes with
  | cluster alive goes closing =>
      cases spared with
      | noCluster => cases (List.cons.inj same).1
      | deletedCluster deleting =>
          cases (List.cons.inj same).1
          rw [deleting] at alive
          cases alive
  | ns goes closing =>
      cases spared
      cases (List.cons.inj same).1

/-- Where the write at the end of a pass is refused, the pass fails, with its own error if it has
one and else with that of the write, so that the operator tries again. But where that error is one
that the user has to mend, the pass waits for a change of the object, and what it had to say is
lost. So a pass that does not fail has left its object alone, had nothing to write, has written it,
or has stopped for such an error. -/
theorem retried_unless_permanent {result : Except Error Action}
    (trace : Trace (subject.program settings now) calls result) :
    (∀ outcome failure, subject.Closes settings now calls outcome (some (.error failure)) →
      (∀ good, outcome = .ok good →
        result = if failure.isPermanent then .ok .awaitChange else .error failure) ∧
      ∀ own, outcome = .error own →
        result = if own.isPermanent then .ok .awaitChange else .error own) ∧
    ∀ action, result = .ok action → subject.Spared calls ∨
      ∃ outcome written, subject.Closes settings now calls outcome written ∧
        (written = none ∨ written = some (.ok ()) ∨
          ∃ error, settle outcome (written.getD (.ok ())) = .error error ∧ error.isPermanent) := by
  rcases ends_of_trace trace with ⟨error, isError, never⟩ | ⟨spared, _⟩ |
    ⟨outcome, written, closes, isResult⟩
  · refine ⟨fun outcome failure closes => absurd closes (never _ _), ?_⟩
    intro action isOk
    rw [isError] at isOk
    cases isOk
  · exact ⟨fun outcome failure closes => absurd closes spared.not_closes, fun _ _ => .inl spared⟩
  · constructor
    · intro other failure refused
      rcases closes.unique refused with ⟨rfl, rfl⟩
      constructor
      · rintro good rfl
        exact isResult
      · rintro own rfl
        exact isResult
    · intro action isOk
      refine .inr ⟨outcome, written, closes, ?_⟩
      cases settled : settle outcome (written.getD (.ok ())) with
      | error error =>
          refine .inr (.inr ⟨error, rfl, ?_⟩)
          rw [isResult, settled] at isOk
          cases permanent : error.isPermanent with
          | true => rfl
          | false => simp [conclusion, permanent] at isOk
      | ok good =>
          -- a refused write would have come to an error
          rcases written with _ | (failure | stored)
          · exact .inl rfl
          · cases outcome <;> cases settled
          · exact .inr (.inl rfl)

end Endings

/-- A namespace with an attribute of a type that does not exist. -/
def Namespace.mistyped : Namespace :=
  { payments with
    spec := { payments.spec with searchAttributes := .ofList [("Amount", "Money")] } }

/-- A server that knows the namespace, and a store that refuses to write it. -/
def Replies.refusing : Replies
  | .store (.getNamespace _) => .ok (some .mistyped)
  | .store (.patchNamespace key _) => .error (.conflict key.text "stale")
  | request => Replies.known request

/-- The pass waits, and nobody is told of the type that does not exist. -/
theorem retried_unless_mistyped :
    let subject := Subject.ns Namespace.mistyped.key
    let pass := subject.program {} default
    let lost := Error.unknownAttributeType "Amount" "Money"
    subject.Closes {} default (follow .refusing pass).1 (.error lost)
        (some (.error (.conflict "apps/payments" "stale"))) ∧
      (follow .refusing pass).2 = .ok .awaitChange := by
  intro subject pass lost
  have closes : subject.Closes {} default (follow .refusing pass).1 (.error lost)
      (some (.error (.conflict "apps/payments" "stale"))) :=
    .ns (trace_follow .refusing (namespaceBody {} default Namespace.mistyped.key .mistyped))
      (.wrote rfl _)
  have retried := (retried_unless_permanent (trace_follow .refusing pass)).1 _ _ closes
  exact ⟨closes, retried.2 lost rfl⟩

end ClusterOperator
