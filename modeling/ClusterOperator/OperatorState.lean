import ClusterOperator.Backoff
import ClusterOperator.DependencyIndex
import ClusterOperator.Program.Basic

/-!
# What the operator keeps

Between passes the operator keeps which namespaces hang on which cluster and how often each object
has failed. Passes write both down as they go.
-/

namespace ClusterOperator

/-- What is kept between passes. -/
structure OperatorState where
  index : DependencyIndex := {}
  failures : FailureCounts := ∅

namespace OperatorState

/-- Takes what a pass writes down. -/
def take (state : OperatorState) : Note → OperatorState
  | .listed ns => { state with index := state.index.upsert ns }
  | .unlisted key => { state with index := state.index.remove key }
  | .settled key => { state with failures := state.failures.reset key }

/-- Counts one more failed pass over an object. -/
def fail (state : OperatorState) (failureKey : String) : OperatorState :=
  { state with failures := state.failures.record failureKey }

end OperatorState

end ClusterOperator
