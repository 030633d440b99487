import ClusterOperator.Pass.Cluster
import ClusterOperator.Proofs.Cluster.Tending

/-!
# The work of a cluster pass

What happens in the part of a cluster pass that is under the deadline. `Cluster.Work` has one rule
for each way through it. Children are asked for only on the ways of a complete and valid spec; an
open spec is written back, and an invalid one stops the pass before it has asked for anything.
-/

namespace ClusterOperator

open Program

namespace Cluster

/-- The ways through the part of a pass that is under the deadline, with the cluster as the pass
leaves it and what came of it. -/
inductive Work (settings : Settings) (now : Instant) (key : ObjectKey) (held : Cluster) :
    List Exchange → Cluster → Except Error Outcome → Prop
  | invalid {error : Error} (complete : held.spec.withDefaults = held.spec)
      (invalid : held.spec.validate held.key.text = .error error) :
      Work settings now key held [] held (.error error)
  | converged {calls : List Exchange} {children : List Child}
      (complete : held.spec.withDefaults = held.spec)
      (valid : held.spec.validate held.key.text = .ok ())
      (tends : Limited (.error (.timeout key.text settings.passTimeout))
        (convergeChildren held).run calls (.ok children)) :
      Work settings now key held calls (held.report now (held.roleStatuses children)) (.ok .success)
  | unconverged {calls : List Exchange} {error : Error}
      (complete : held.spec.withDefaults = held.spec)
      (valid : held.spec.validate held.key.text = .ok ())
      (tends : Limited (.error (.timeout key.text settings.passTimeout))
        (convergeChildren held).run calls (.error error)) :
      Work settings now key held calls held (.error error)
  | filled (opened : held.spec.withDefaults ≠ held.spec) (answer : Cluster) :
      Work settings now key held
        [.answered (.store (.replaceCluster { held with spec := held.spec.withDefaults }))
          (.ok answer)]
        { held with spec := held.spec.withDefaults } (.ok .finished)
  | refused (opened : held.spec.withDefaults ≠ held.spec) (error : Error) :
      Work settings now key held
        [.answered (.store (.replaceCluster { held with spec := held.spec.withDefaults }))
          (.error error)]
        { held with spec := held.spec.withDefaults } (.error error)
  | late (opened : held.spec.withDefaults ≠ held.spec) :
      Work settings now key held
        [.cut (.store (.replaceCluster { held with spec := held.spec.withDefaults }))]
        { held with spec := held.spec.withDefaults }
        (.error (.timeout key.text settings.passTimeout))

end Cluster

section Ways

variable {settings : Settings} {now : Instant} {key : ObjectKey} {held changed : Cluster}
  {calls : List Exchange} {outcome : Except Error Outcome}

theorem Program.clusterWork_of_trace {left : Cluster × Except Error Outcome}
    (trace : Trace (clusterBody settings now key held) calls left) :
    held.Work settings now key calls left.1 left.2 := by
  dsimp only [clusterBody] at trace
  split at trace
  · have complete : held.spec.withDefaults = held.spec := of_decide_eq_true ‹_›
    split at trace
    · rename_i invalid
      rcases trace_pure.mp trace with ⟨rfl, rfl⟩
      exact .invalid complete invalid
    · rename_i valid
      rcases trace_bind.mp trace with ⟨front, back, result, rfl, tends, last⟩
      cases result with
      | error error =>
          rcases trace_pure.mp last with ⟨rfl, rfl⟩
          rw [List.append_nil]
          exact .unconverged complete valid tends.limited
      | ok children =>
          rcases trace_pure.mp last with ⟨rfl, rfl⟩
          rw [List.append_nil]
          exact .converged complete valid tends.limited
  · rename_i opened
    have opened : held.spec.withDefaults ≠ held.spec := fun complete =>
      opened (decide_eq_true complete)
    rcases trace_bind.mp trace with ⟨front, back, result, rfl, fills, last⟩
    rcases fills with ⟨_, rfl, rfl, rfl⟩ | ⟨answer, _, rfl, rfl, rfl⟩
    · rcases trace_pure.mp last with ⟨rfl, rfl⟩
      exact .late opened
    · cases result with
      | error error =>
          rcases trace_pure.mp last with ⟨rfl, rfl⟩
          exact .refused opened error
      | ok answer =>
          rcases trace_pure.mp last with ⟨rfl, rfl⟩
          exact .filled opened answer

/-- A pass asks for a child only where the spec is complete and valid. -/
theorem Cluster.Work.complete_valid_of_childKey?
    (work : held.Work settings now key calls changed outcome) {exchange : Exchange}
    (asked : exchange ∈ calls) (child : exchange.request.childKey?.isSome) :
    held.spec.withDefaults = held.spec ∧ held.spec.validate held.key.text = .ok () := by
  cases work with
  | invalid complete invalid => cases asked
  | converged complete valid tends => exact ⟨complete, valid⟩
  | unconverged complete valid tends => exact ⟨complete, valid⟩
  | filled opened answer =>
      rw [List.mem_singleton.mp asked] at child
      cases child
  | refused opened error =>
      rw [List.mem_singleton.mp asked] at child
      cases child
  | late opened =>
      rw [List.mem_singleton.mp asked] at child
      cases child

end Ways

end ClusterOperator
