import ClusterOperator.Builder.Basic
import ClusterOperator.Program.Basic

/-!
# The children of a cluster

Each child object is brought into shape in turn: created where it is missing, replaced where it
differs, deleted where it should not be, and left alone where it is as it should be.
-/

namespace ClusterOperator.Program

/-- Brings the object of one builder into shape and returns it as it is afterwards. -/
def convergeChild (cluster : Cluster) (builder : Builder) : Fallible (Option Child) := do
  let skeleton := builder.skeleton cluster
  let current ← askStore (.getChild skeleton.key)
  match builder.isEnabled cluster, current with
  | true, none => do
      let child ← builder.update cluster skeleton
      let created ← askStore (.createChild child)
      pure (some created)
  | true, some observed => do
      let child ← builder.update cluster observed
      if child = observed then pure (some observed)
      else do
        let replaced ← askStore (.replaceChild child)
        pure (some replaced)
  | false, none => pure none
  | false, some _ => do
      askStore (.deleteChild skeleton.key)
      pure none

/-- Brings the objects of some builders into shape, one after the other, and returns those that
there should be. -/
def convergeEach (cluster : Cluster) : List Builder → Fallible (List Child)
  | [] => pure []
  | builder :: rest => do
      let child ← convergeChild cluster builder
      let children ← convergeEach cluster rest
      pure (child.toList ++ children)

/-- Brings all children of a cluster into shape. -/
def convergeChildren (cluster : Cluster) : Fallible (List Child) := convergeEach cluster Builder.all

end ClusterOperator.Program
