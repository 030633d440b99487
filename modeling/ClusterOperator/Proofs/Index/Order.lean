import ClusterOperator.Proofs.Index.Basic

/-!
# Changes of different namespaces

What is done to an index about one namespace changes only the entries of that namespace, whatever
else is in the index and whether or not its two maps say the same. So it makes no difference which
one of two namespaces comes first.
-/

namespace ClusterOperator.DependencyIndex

variable {index : DependencyIndex} {dependent other cluster : ObjectKey}

/-- The namespaces of a cluster without one; no namespaces are the same as no cluster. -/
def drop (dependent : ObjectKey) (keys : Option KeySet) : Option KeySet :=
  keys.bind fun keys => if (keys.erase dependent).isEmpty then none else some (keys.erase dependent)

/-- The namespaces of a cluster with one more. -/
def add (dependent : ObjectKey) (keys : Option KeySet) : KeySet :=
  (keys.getD ∅).insert dependent ()

theorem erase_erase (keys : KeySet) (dependent other : ObjectKey) :
    (keys.erase dependent).erase other = (keys.erase other).erase dependent := by
  apply SortedMap.ext_get?
  intro key
  simp only [SortedMap.get?_erase]
  split <;> split <;> rfl

theorem insert_insert (keys : KeySet) (dependent other : ObjectKey) :
    (keys.insert dependent ()).insert other () = (keys.insert other ()).insert dependent () := by
  apply SortedMap.ext_get?
  intro key
  simp only [SortedMap.get?_insert]
  split <;> split <;> rfl

theorem erase_insert (keys : KeySet) (ne : dependent ≠ other) :
    (keys.insert dependent ()).erase other = (keys.erase other).insert dependent () := by
  apply SortedMap.ext_get?
  intro key
  simp only [SortedMap.get?_erase, SortedMap.get?_insert]
  split
  · rename_i here
    rw [if_neg fun same => ne (same.trans here.symm)]
  · rfl

theorem isEmpty_insert (keys : KeySet) (dependent : ObjectKey) :
    (keys.insert dependent ()).isEmpty = false := by
  refine Bool.eq_false_iff.mpr fun isEmpty => ?_
  have there := SortedMap.get?_insert_self keys dependent ()
  rw [SortedMap.isEmpty_iff.mp isEmpty] at there
  cases there

/-! ### One entry -/

theorem getD_drop (dependent : ObjectKey) (keys : Option KeySet) :
    (drop dependent keys).getD ∅ = (keys.getD ∅).erase dependent := by
  cases keys with
  | none => rfl
  | some keys =>
      dsimp only [drop, Option.bind_some]
      split
      · rename_i isEmpty
        exact (SortedMap.isEmpty_iff.mp isEmpty).symm
      · rfl

theorem drop_drop (dependent other : ObjectKey) (keys : Option KeySet) :
    drop other (drop dependent keys) = drop dependent (drop other keys) := by
  -- what is left in the end is what has neither of the two, if there is anything left
  have left (one second : ObjectKey) (keys : KeySet) : drop second (drop one (some keys)) =
      if ((keys.erase one).erase second).isEmpty then none
      else some ((keys.erase one).erase second) := by
    dsimp only [drop, Option.bind_some]
    split
    · rename_i isEmpty
      rw [SortedMap.isEmpty_iff.mp isEmpty]
      rfl
    · rfl
  cases keys with
  | none => rfl
  | some keys => rw [left, left, erase_erase]

theorem add_add (dependent other : ObjectKey) (keys : Option KeySet) :
    add other (some (add dependent keys)) = add dependent (some (add other keys)) :=
  insert_insert _ dependent other

theorem drop_add (ne : dependent ≠ other) (keys : Option KeySet) :
    drop other (some (add dependent keys)) = some (add dependent (drop other keys)) := by
  unfold add
  rw [getD_drop]
  dsimp only [drop, Option.bind_some]
  rw [erase_insert _ ne, if_neg (ne_true_of_eq_false (isEmpty_insert _ _))]

/-- What becomes of the namespaces of a cluster when one goes and then comes, or does not. -/
def shift (dependent : ObjectKey) (drops adds : Bool) (keys : Option KeySet) : Option KeySet :=
  let keys := if drops then drop dependent keys else keys
  if adds then some (add dependent keys) else keys

theorem shift_shift (ne : dependent ≠ other) (drops adds dropsOther addsOther : Bool)
    (keys : Option KeySet) :
    shift other dropsOther addsOther (shift dependent drops adds keys) =
      shift dependent drops adds (shift other dropsOther addsOther keys) := by
  cases drops <;> cases adds <;> cases dropsOther <;> cases addsOther <;>
    simp [shift, drop_drop other dependent, add_add other dependent, drop_add ne, drop_add ne.symm]

theorem get?_shift (ne : dependent ≠ other) (drops adds : Bool) (keys : Option KeySet) :
    ((shift dependent drops adds keys).getD ∅).get? other = (keys.getD ∅).get? other := by
  cases drops <;> cases adds <;>
    simp [shift, add, getD_drop, SortedMap.get?_insert, SortedMap.get?_erase, ne]

/-! ### The whole index -/

/-- What is done to an index is about one namespace only. -/
def Rewrites (dependent : ObjectKey) (change : DependencyIndex → DependencyIndex) : Prop :=
  ∃ (target : Option ObjectKey) (drops adds : Option ObjectKey → ObjectKey → Bool), ∀ index,
    (∀ key, (change index).clusterOf.get? key =
      if dependent = key then target else index.clusterOf.get? key) ∧
    ∀ cluster, (change index).dependents.get? cluster =
      shift dependent (drops (index.clusterOf.get? dependent) cluster)
        (adds (index.clusterOf.get? dependent) cluster) (index.dependents.get? cluster)

theorem get?_dependents_remove (index : DependencyIndex) (dependent cluster : ObjectKey) :
    (index.remove dependent).dependents.get? cluster =
      shift dependent (index.clusterOf.get? dependent = some cluster) false
        (index.dependents.get? cluster) := by
  unfold remove shift
  cases index.clusterOf.get? dependent with
  | none => rfl
  | some listed =>
      dsimp only
      by_cases here : listed = cluster
      · subst here
        rw [if_pos (decide_eq_true rfl)]
        cases there : index.dependents.get? listed with
        | none => exact there
        | some keys =>
            dsimp only [drop, Option.bind_some]
            split
            · exact (SortedMap.get?_erase _ _ _).trans (if_pos rfl)
            · exact SortedMap.get?_insert_self _ _ _
      · have apart : decide (some listed = some cluster) = false :=
          decide_eq_false fun same => here (Option.some.inj same)
        rw [apart]
        split
        · rfl
        · split
          · rw [SortedMap.get?_erase, if_neg here]
            rfl
          · rw [SortedMap.get?_insert, if_neg here]
            rfl

theorem get?_dependents_link (index : DependencyIndex) (dependent target cluster : ObjectKey) :
    (index.link dependent target).dependents.get? cluster =
      shift dependent (index.clusterOf.get? dependent = some cluster) (target = cluster)
        (index.dependents.get? cluster) := by
  dsimp only [link]
  rw [SortedMap.get?_insert]
  split
  · rename_i here
    subst here
    rw [get?_dependents_remove]
    simp [shift, add]
  · rename_i apart
    rw [get?_dependents_remove]
    simp [shift, apart]

theorem rewrites_remove (dependent : ObjectKey) :
    Rewrites dependent fun index => index.remove dependent := by
  refine ⟨none, fun listed cluster => listed = some cluster, fun _ _ => false, fun index => ?_⟩
  refine ⟨fun key => ?_, fun cluster => get?_dependents_remove index dependent cluster⟩
  dsimp only
  rw [clusterOf_remove, SortedMap.get?_erase]

theorem rewrites_upsert (ns : Namespace) : Rewrites ns.key fun index => index.upsert ns := by
  refine ⟨some ns.clusterKey,
    fun listed cluster => listed ≠ some ns.clusterKey ∧ listed = some cluster,
    fun listed cluster => listed ≠ some ns.clusterKey ∧ ns.clusterKey = cluster, fun index => ?_⟩
  refine ⟨fun key => ?_, fun cluster => ?_⟩
  · dsimp only
    rw [clusterOf_upsert, SortedMap.get?_insert]
  · dsimp only [upsert]
    split
    · rename_i listed
      simp [shift, listed]
    · rename_i listed
      rw [get?_dependents_link]
      simp [listed]

variable {change changeOther : DependencyIndex → DependencyIndex}

/-- Changes of different namespaces can be made in any order. -/
theorem Rewrites.comm (rewrites : Rewrites dependent change)
    (rewritesOther : Rewrites other changeOther) (ne : dependent ≠ other)
    (index : DependencyIndex) :
    changeOther (change index) = change (changeOther index) := by
  rcases rewrites with ⟨target, drops, adds, becomes⟩
  rcases rewritesOther with ⟨targetOther, dropsOther, addsOther, becomesOther⟩
  have clusterOf : (changeOther (change index)).clusterOf =
      (change (changeOther index)).clusterOf := by
    apply SortedMap.ext_get?
    intro key
    rw [(becomesOther _).1, (becomes _).1, (becomes _).1, (becomesOther _).1]
    split
    · rename_i here
      rw [if_neg fun same => ne (same.trans here.symm)]
    · rfl
  have dependents : (changeOther (change index)).dependents =
      (change (changeOther index)).dependents := by
    apply SortedMap.ext_get?
    intro cluster
    rw [(becomesOther _).2, (becomes _).2, (becomes _).1, (becomes _).2, (becomesOther _).2,
      (becomesOther _).1, if_neg ne, if_neg ne.symm]
    exact shift_shift ne _ _ _ _ _
  generalize changeOther (change index) = left at clusterOf dependents
  generalize change (changeOther index) = right at clusterOf dependents
  cases left
  cases right
  cases clusterOf
  cases dependents
  rfl

theorem Rewrites.clusterOf (rewrites : Rewrites dependent change) (ne : dependent ≠ other)
    (index : DependencyIndex) :
    (change index).clusterOf.get? other = index.clusterOf.get? other := by
  rcases rewrites with ⟨target, drops, adds, becomes⟩
  rw [(becomes index).1, if_neg ne]

/-- Whether another namespace is listed under a cluster does not change. -/
theorem Rewrites.under (rewrites : Rewrites dependent change) (ne : dependent ≠ other)
    (index : DependencyIndex) (cluster : ObjectKey) :
    ((change index).under cluster).get? other = (index.under cluster).get? other := by
  rcases rewrites with ⟨target, drops, adds, becomes⟩
  unfold DependencyIndex.under
  rw [(becomes index).2]
  exact get?_shift ne _ _ _

end ClusterOperator.DependencyIndex
