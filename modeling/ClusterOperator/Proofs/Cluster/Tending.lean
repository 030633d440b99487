import Mathlib.Data.List.Nodup
import ClusterOperator.Pass.Children
import ClusterOperator.Proofs.Builder.Keys
import ClusterOperator.Proofs.Program.Trace

/-!
# Who tends which child

To bring the object of a builder into shape it is looked at, and then there is at most one request
more. `Builder.Visit` has one rule for each way through this. All requests are about one key, and the
key tells both the cluster, whatever it is called, and the place of the builder among all builders.
-/

namespace ClusterOperator

open Program

/-- The key of the child that a request is about. -/
def Request.childKey? : Request → Option ChildKey
  | .store (.getChild key) => some key
  | .store (.createChild child) => some child.key
  | .store (.replaceChild child) => some child.key
  | .store (.deleteChild key) => some key
  | _ => none

/-- Where a child was found, it has the key under which it was looked up. -/
def History.FindsKeys (history : History) : Prop :=
  ∀ key child, .answered (.store (.getChild key)) (.ok (some child)) ∈ history → child.key = key

namespace Builder

variable {cluster : Cluster} {builder : Builder} {calls : List Exchange}
  {result : Except Error (Option Child)}

/-- The ways through bringing the object of a builder into shape, with what comes of each. -/
inductive Visit (builder : Builder) (cluster : Cluster) :
    List Exchange → Except Error (Option Child) → Prop
  | unseen (error : Error) :
      Visit builder cluster
        [.answered (.store (.getChild (builder.key cluster))) (.error error)] (.error error)
  | refuse {found : Option Child} {error : Error} (enabled : builder.isEnabled cluster)
      (refused : builder.update cluster (found.getD (builder.skeleton cluster)) = .error error) :
      Visit builder cluster
        [.answered (.store (.getChild (builder.key cluster))) (.ok found)] (.error error)
  | create {child : Child} (answer : Except Error Child) (enabled : builder.isEnabled cluster)
      (updated : builder.update cluster (builder.skeleton cluster) = .ok child) :
      Visit builder cluster
        [.answered (.store (.getChild (builder.key cluster))) (.ok none),
          .answered (.store (.createChild child)) answer]
        (answer.map some)
  | keep {observed : Child} (enabled : builder.isEnabled cluster)
      (inShape : builder.update cluster observed = .ok observed) :
      Visit builder cluster
        [.answered (.store (.getChild (builder.key cluster))) (.ok (some observed))]
        (.ok (some observed))
  | replace {observed child : Child} (answer : Except Error Child)
      (enabled : builder.isEnabled cluster) (updated : builder.update cluster observed = .ok child)
      (changed : child ≠ observed) :
      Visit builder cluster
        [.answered (.store (.getChild (builder.key cluster))) (.ok (some observed)),
          .answered (.store (.replaceChild child)) answer]
        (answer.map some)
  | absent (disabled : builder.isEnabled cluster = false) :
      Visit builder cluster
        [.answered (.store (.getChild (builder.key cluster))) (.ok none)] (.ok none)
  | delete {observed : Child} (answer : Except Error Unit)
      (disabled : builder.isEnabled cluster = false) :
      Visit builder cluster
        [.answered (.store (.getChild (builder.key cluster))) (.ok (some observed)),
          .answered (.store (.deleteChild (builder.key cluster))) answer]
        (answer.map fun _ => none)

theorem visit_of_trace (trace : Trace (convergeChild cluster builder).run calls result) :
    builder.Visit cluster calls result := by
  dsimp only [convergeChild] at trace
  rcases trace_run_bind.mp trace with ⟨front, back, found, rfl, looked, rest⟩ | ⟨error, failed, rfl⟩
  · cases trace_run_ask.mp looked
    split at rest
    · rename_i enabled
      rcases trace_run_bind.mp rest with ⟨_, _, child, rfl, made, last⟩ | ⟨error, made, rfl⟩
      · rcases trace_run_result.mp made with ⟨rfl, updated⟩
        rcases trace_run_ask_pure.mp last with ⟨answer, rfl, rfl⟩
        exact .create answer enabled updated.symm
      · rcases trace_run_result.mp made with ⟨rfl, refused⟩
        exact .refuse enabled refused.symm
    · rename_i observed enabled
      rcases trace_run_bind.mp rest with ⟨_, _, child, rfl, made, last⟩ | ⟨error, made, rfl⟩
      · rcases trace_run_result.mp made with ⟨rfl, updated⟩
        split at last
        · rename_i same
          subst same
          rcases last with ⟨rfl, rfl⟩
          exact .keep enabled updated.symm
        · rename_i changed
          rcases trace_run_ask_pure.mp last with ⟨answer, rfl, rfl⟩
          exact .replace answer enabled updated.symm changed
      · rcases trace_run_result.mp made with ⟨rfl, refused⟩
        exact .refuse enabled refused.symm
    · rename_i disabled
      rcases rest with ⟨rfl, rfl⟩
      exact .absent disabled
    · rename_i observed disabled
      rcases trace_run_ask_pure.mp rest with ⟨answer, rfl, rfl⟩
      exact .delete answer disabled
  · cases trace_run_ask.mp failed
    exact .unseen error

/-! ### Keys -/

/-- Every request is about the key of the builder. -/
theorem Visit.childKey?_eq (visit : builder.Visit cluster calls result)
    (finds : History.FindsKeys calls) {exchange : Exchange} (asked : exchange ∈ calls) :
    exchange.request.childKey? = some (builder.key cluster) := by
  cases visit with
  | create answer enabled updated =>
      rcases List.mem_pair.mp asked with rfl | rfl
      · rfl
      · exact congrArg some (key_update updated)
  | replace answer enabled updated changed =>
      have own := finds _ _ (List.mem_cons_self ..)
      rcases List.mem_pair.mp asked with rfl | rfl
      · rfl
      · exact congrArg some ((key_update updated).trans own)
  | delete answer disabled =>
      rcases List.mem_pair.mp asked with rfl | rfl <;> rfl
  | _ =>
      rw [List.mem_singleton.mp asked]
      rfl

/-- A builder manages a child of a cluster: on some way through bringing its object into shape it
makes a request about this child. -/
def Manages (builder : Builder) (cluster : Cluster) (key : ChildKey) : Prop :=
  ∃ calls result, Trace (convergeChild cluster builder).run calls result ∧
    History.FindsKeys calls ∧ ∃ exchange ∈ calls, exchange.request.childKey? = some key

theorem manages_iff {key : ChildKey} : builder.Manages cluster key ↔ key = builder.key cluster := by
  constructor
  · rintro ⟨calls, result, trace, finds, exchange, asked, isKey⟩
    have own := (visit_of_trace trace).childKey?_eq finds asked
    exact Option.some_inj.mp (isKey.symm.trans own)
  · rintro rfl
    let refuse : Replies := fun _ => .error (.serialization "")
    refine ⟨_, _, trace_follow refuse _, ?_, _, List.mem_cons_self .., rfl⟩
    intro key child found
    cases List.mem_singleton.mp found

/-- Whatever two clusters are called, objects that their builders describe have the same kind,
namespace and name only where the clusters have the same namespace and name and the builders stand
at the same place, and only there do the builders manage a child in common. -/
theorem same_child_iff (first second : Cluster) (i j : Fin all.length) :
    ((all[i].skeleton first).kind = (all[j].skeleton second).kind ∧
      (all[i].skeleton first).metadata.ns = (all[j].skeleton second).metadata.ns ∧
      (all[i].skeleton first).metadata.name = (all[j].skeleton second).metadata.name ↔
      first.metadata.ns = second.metadata.ns ∧ first.name = second.name ∧ i = j) ∧
    ((∃ key, all[i].Manages first key ∧ all[j].Manages second key) ↔
      first.key = second.key ∧ i = j) := by
  have places : all[i] = all[j] ↔ i = j := by
    rw [Fin.getElem_fin, Fin.getElem_fin, nodup_all.getElem_inj_iff, Fin.val_inj]
  rw [kind_skeleton, kind_skeleton, metadata_skeleton, metadata_skeleton, ← places]
  constructor
  · constructor
    · rintro ⟨kind, ns, name⟩
      rcases eq_of_kind_childName kind (Option.some_inj.mp name) with ⟨sameName, same⟩
      exact ⟨ns, sameName, same⟩
    · rintro ⟨ns, name, same⟩
      rw [same]
      exact ⟨rfl, ns, congrArg (fun name => some (name ++ "-" ++ all[j].suffix)) name⟩
  · simp only [manages_iff, exists_eq_left]
    exact key_eq_iff

/-- The name of one cluster is that of the other and a suffix, and yet they have no child in common.
-/
theorem same_child_iff_of_hyphenated :
    let named (name : String) : Cluster :=
      { metadata := { name := some name, ns := some "apps" }, spec := {}, status := none }
    ¬ ∃ (i j : Fin all.length) (key : ChildKey),
      all[i].Manages (named "prod") key ∧ all[j].Manages (named "prod-frontend") key := by
  rintro named ⟨i, j, common⟩
  have same := ((same_child_iff (named "prod") (named "prod-frontend") i j).2.mp common).1
  exact absurd same (by decide)

end Builder

end ClusterOperator
