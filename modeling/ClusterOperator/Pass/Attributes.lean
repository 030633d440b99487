import ClusterOperator.Program.Basic
import ClusterOperator.SearchAttribute.Plan

/-!
# Search attributes on a server

The attributes of a namespace are compared as a whole with those of the spec, so nothing is left
behind by a pass that stopped half way. Nothing is changed where there is no plan.
-/

namespace ClusterOperator.Program

/-- Brings the search attributes of a namespace to those of a spec and returns the plan for it. -/
def convergeAttributes (cluster : Cluster) (name : String) (spec : StringMap String) :
    Fallible AttributePlan := do
  let present ← askServer cluster (.listAttributes name)
  let plan ← AttributePlan.make spec present
  if plan.removals ≠ [] then
    askServer cluster (.removeAttributes name plan.removals)
  if !plan.additions.isEmpty then
    askServer cluster (.addAttributes name plan.additions)
  pure plan

end ClusterOperator.Program
