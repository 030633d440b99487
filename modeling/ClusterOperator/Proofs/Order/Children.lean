import ClusterOperator.Proofs.Cluster.Interruption

/-!
# The same children in two stores

What a pass makes of the children that its builders name depends on nothing else in the store, but
for the versions that it takes.
-/

namespace ClusterOperator

namespace Store

variable {store later other last : Store} {cluster : Cluster} {builder : Builder}
  {builders : List Builder} {child held : Child}

/-- What is stored under the key of a builder stands under its own key. -/
def Files (cluster : Cluster) (builder : Builder) (store : Store) : Prop :=
  ∀ child, store.children.get? (builder.key cluster) = some child →
    child.key = builder.key cluster

theorem Files.of_eq (filed : store.Files cluster builder)
    (same : other.children.get? (builder.key cluster) =
      store.children.get? (builder.key cluster)) : other.Files cluster builder :=
  fun child there => filed child (same.symm.trans there)

/-- A replacement of a child that is bound to the version of the stored one is stored. -/
theorem replaceChild_of_current (there : store.children.get? child.key = some held)
    (bound : child.metadata.resourceVersion = held.metadata.resourceVersion) :
    ∃ version,
      let replaced := child.stamped child.metadata.uid version (some held.metadata.nextGeneration)
      (store.replaceChild child).1 = .ok replaced ∧
        (store.replaceChild child).2.children = store.children.insert child.key replaced := by
  have same : store.advance.children = store.children := rfl
  dsimp only [replaceChild]
  rw [same, there, bound, writable_of_current Child.metadata]
  exact ⟨_, rfl, rfl⟩

/-- A child is brought into shape unless its builder cannot describe it. -/
theorem converge_cases (filed : store.Files cluster builder) :
    (∃ error, ∀ other : Store, other.children.get? (builder.key cluster) =
        store.children.get? (builder.key cluster) →
      other.converge cluster builder = (.error error, other)) ∨
    ∃ result later, store.converge cluster builder = (.ok result, later) ∧
      Shaped cluster builder store result later := by
  cases enabled : builder.isEnabled cluster with
  | false =>
      right
      cases there : store.children.get? (builder.key cluster) with
      | none =>
          have inShape : builder.InShape cluster (store.children.get? (builder.key cluster)) := by
            rw [there]
            exact enabled
          exact ⟨_, _, converge_of_inShape inShape, shaped_of_inShape inShape⟩
      | some observed =>
          refine ⟨none, store.deleteChild (builder.key cluster), ?_, ?_⟩
          · rw [converge, enabled, there]
          · rw [deleteChild_of_present there]
            refine ⟨rfl, ?_, ?_, fun key ne => ?_⟩
            · exact (SortedMap.get?_erase _ _ _).trans (if_pos rfl)
            · rw [there]
              exact .deletes observed enabled
            · exact (SortedMap.get?_erase _ _ _).trans (if_neg ne)
  | true =>
      cases there : store.children.get? (builder.key cluster) with
      | none =>
          cases updated : builder.update cluster (builder.skeleton cluster) with
          | error error =>
              left
              refine ⟨error, fun other same => ?_⟩
              rw [converge, enabled, same]
              dsimp only
              rw [updated]
          | ok child =>
              have key : child.key = builder.key cluster := Builder.key_update updated
              have absent := there
              rw [← key] at absent
              rcases createChild_of_absent absent with ⟨version, created, children⟩
              rw [key] at children
              right
              refine ⟨_, (store.createChild child).2, ?_, shaped_of_insert ?_
                (clusters_createChild store child) children⟩
              · rw [converge, enabled, there]
                dsimp only
                rw [updated]
                dsimp only
                rw [created]
                rfl
              · rw [there]
                exact .creates version enabled updated
      | some observed =>
          cases updated : builder.update cluster observed with
          | error error =>
              left
              refine ⟨error, fun other same => ?_⟩
              rw [converge, enabled, same]
              dsimp only
              rw [updated]
          | ok child =>
              right
              by_cases settled : child = observed
              · subst settled
                have inShape :
                    builder.InShape cluster (store.children.get? (builder.key cluster)) := by
                  rw [there]
                  exact ⟨enabled, updated⟩
                exact ⟨_, _, converge_of_inShape inShape, shaped_of_inShape inShape⟩
              · have key : child.key = builder.key cluster :=
                  (Builder.key_update updated).trans (filed observed there)
                have stored : store.children.get? child.key = some observed := by
                  rw [key, there]
                rcases replaceChild_of_current stored (Builder.resourceVersion_update updated) with
                  ⟨version, replaced, children⟩
                rw [key] at children
                refine ⟨_, (store.replaceChild child).2, ?_, shaped_of_insert ?_
                  (clusters_replaceChild store child) children⟩
                · rw [converge, enabled, there]
                  dsimp only
                  rw [updated]
                  dsimp only
                  rw [if_neg settled, replaced]
                  rfl
                · rw [there]
                  exact .replaces version enabled key settled updated

/-- Where one child is the same in two stores, the same is made of it. -/
theorem converge_congr (filed : store.Files cluster builder)
    (same : other.children.get? (builder.key cluster) =
      store.children.get? (builder.key cluster)) :
    (∃ error, store.converge cluster builder = (.error error, store) ∧
      other.converge cluster builder = (.error error, other)) ∨
    ∃ result later also last, store.converge cluster builder = (.ok result, later) ∧
      other.converge cluster builder = (.ok also, last) ∧
      Shaped cluster builder store result later ∧ Shaped cluster builder other also last ∧
      result.map Child.unversioned = also.map Child.unversioned := by
  rcases converge_cases filed with ⟨error, fails⟩ | ⟨result, later, converges, shaped⟩
  · exact .inl ⟨error, fails store rfl, fails other same⟩
  · rcases converge_cases (filed.of_eq same) with ⟨error, fails⟩ | ⟨also, last, comes, shapes⟩
    · have failed := fails store same.symm
      rw [converges] at failed
      cases failed
    · refine .inr ⟨result, later, also, last, converges, comes, shaped, shapes, ?_⟩
      have completes := shapes.completes
      rw [same] at completes
      exact shaped.completes.unique completes

/-! ### Several children -/

/-- Only the children that the builders name are touched, whatever comes of them. -/
theorem frame_convergeAll (filed : ∀ builder ∈ builders, store.Files cluster builder)
    (distinct : builders.Pairwise fun left right => left.key cluster ≠ right.key cluster) :
    (store.convergeAll cluster builders).2.clusters = store.clusters ∧
      ∀ key, (∀ builder ∈ builders, builder.key cluster ≠ key) →
        (store.convergeAll cluster builders).2.children.get? key = store.children.get? key := by
  induction builders generalizing store with
  | nil => exact ⟨rfl, fun _ _ => rfl⟩
  | cons builder rest ih =>
      rcases List.pairwise_cons.mp distinct with ⟨apart, distinct⟩
      rw [convergeAll_cons_snd]
      rcases converge_cases (filed builder (List.mem_cons_self ..)) with
        ⟨error, fails⟩ | ⟨result, later, converges, shaped⟩
      · rw [fails store rfl]
        exact ⟨rfl, fun _ _ => rfl⟩
      · rw [converges]
        dsimp only
        have others : ∀ one ∈ rest, later.Files cluster one := fun one there =>
          (filed one (List.mem_cons_of_mem _ there)).of_eq (shaped.others _ (apart one there))
        rcases ih others distinct with ⟨clusters, frame⟩
        refine ⟨clusters.trans shaped.clusters, fun key outside => ?_⟩
        rw [frame key fun one there => outside one (List.mem_cons_of_mem _ there)]
        exact shaped.others key (outside builder (List.mem_cons_self ..))

/-- What is made of some children in two stores is the same. -/
structure Agree (cluster : Cluster) (builders : List Builder) (store other : Store) : Prop where
  result : (store.convergeAll cluster builders).1.map (List.map Child.unversioned) =
    (other.convergeAll cluster builders).1.map (List.map Child.unversioned)
  children : ∀ builder ∈ builders,
    ((store.convergeAll cluster builders).2.children.get? (builder.key cluster)).map
        Child.unversioned =
      ((other.convergeAll cluster builders).2.children.get? (builder.key cluster)).map
        Child.unversioned

theorem convergeAll_cons_fst (cluster : Cluster) (builder : Builder) (rest : List Builder)
    (store : Store) :
    (store.convergeAll cluster (builder :: rest)).1 =
      match store.converge cluster builder with
      | (.error error, _) => .error error
      | (.ok child, later) =>
          (later.convergeAll cluster rest).1.map fun children => child.toList ++ children := by
  rw [convergeAll]
  rcases store.converge cluster builder with ⟨error | child, later⟩
  · rfl
  · dsimp only
    rcases later.convergeAll cluster rest with ⟨error | children, last⟩ <;> rfl

theorem agree_convergeAll (filed : ∀ builder ∈ builders, store.Files cluster builder)
    (distinct : builders.Pairwise fun left right => left.key cluster ≠ right.key cluster)
    (same : ∀ builder ∈ builders, other.children.get? (builder.key cluster) =
      store.children.get? (builder.key cluster)) : Agree cluster builders store other := by
  induction builders generalizing store other with
  | nil => exact ⟨rfl, nofun⟩
  | cons builder rest ih =>
      rcases List.pairwise_cons.mp distinct with ⟨apart, distinct⟩
      have first := List.mem_cons_self (a := builder) (l := rest)
      rcases converge_congr (filed builder first) (same builder first) with
        ⟨error, fails, failsToo⟩ |
          ⟨result, later, also, last, converges, comes, shaped, shapes, unique⟩
      · refine ⟨?_, fun one there => ?_⟩
        · rw [convergeAll_cons_fst, convergeAll_cons_fst, fails, failsToo]
        · rw [convergeAll_cons_snd, convergeAll_cons_snd, fails, failsToo, same one there]
      · have stays (one : Builder) (there : one ∈ rest) :
            later.children.get? (one.key cluster) = store.children.get? (one.key cluster) :=
          shaped.others _ (apart one there)
        have staysToo (one : Builder) (there : one ∈ rest) :
            last.children.get? (one.key cluster) = other.children.get? (one.key cluster) :=
          shapes.others _ (apart one there)
        have files (one : Builder) (there : one ∈ rest) : later.Files cluster one :=
          (filed one (List.mem_cons_of_mem _ there)).of_eq (stays one there)
        have equal (one : Builder) (there : one ∈ rest) :
            last.children.get? (one.key cluster) = later.children.get? (one.key cluster) := by
          rw [stays one there, staysToo one there, same one (List.mem_cons_of_mem _ there)]
        have agree := ih files distinct equal
        have filesToo (one : Builder) (there : one ∈ rest) : last.Files cluster one :=
          (files one there).of_eq (equal one there)
        have outside (one : Builder) (there : one ∈ rest) :
            one.key cluster ≠ builder.key cluster :=
          (apart one there).symm
        -- what comes later does not touch this child
        have still := (frame_convergeAll files distinct).2 _ outside
        have stillToo := (frame_convergeAll filesToo distinct).2 _ outside
        refine ⟨?_, fun one there => ?_⟩
        · rw [convergeAll_cons_fst, convergeAll_cons_fst, converges, comes]
          dsimp only
          have lists : result.toList.map Child.unversioned = also.toList.map Child.unversioned := by
            rw [← Option.toList_map, ← Option.toList_map, unique]
          have agreed := agree.result
          revert agreed
          generalize (later.convergeAll cluster rest).1 = left
          generalize (last.convergeAll cluster rest).1 = right
          intro agreed
          cases left <;> cases right <;> simp_all [Except.map]
        · rw [convergeAll_cons_snd, convergeAll_cons_snd, converges, comes]
          dsimp only
          rcases List.mem_cons.mp there with rfl | there
          · rw [still, stillToo, shaped.stored, shapes.stored]
            exact unique
          · exact agree.children one there

theorem frame_checked (filed : ∀ builder ∈ Builder.all, store.Files cluster builder) :
    (store.checked cluster).2.clusters = store.clusters ∧
      ∀ key, (∀ builder : Builder, builder.key cluster ≠ key) →
        (store.checked cluster).2.children.get? key = store.children.get? key := by
  unfold checked
  split
  · exact ⟨rfl, fun _ _ => rfl⟩
  · rcases frame_convergeAll filed (Builder.pairwise_key_ne cluster) with ⟨clusters, frame⟩
    exact ⟨clusters, fun key outside => frame key fun builder _ => outside builder⟩

/-- Checking a cluster comes to the same where its children are the same. -/
theorem checked_congr (filed : ∀ builder ∈ Builder.all, store.Files cluster builder)
    (same : ∀ builder ∈ Builder.all, other.children.get? (builder.key cluster) =
      store.children.get? (builder.key cluster)) :
    (store.checked cluster).1.map (List.map Child.unversioned) =
        (other.checked cluster).1.map (List.map Child.unversioned) ∧
      ∀ builder : Builder,
        ((store.checked cluster).2.children.get? (builder.key cluster)).map Child.unversioned =
          ((other.checked cluster).2.children.get? (builder.key cluster)).map
            Child.unversioned := by
  unfold checked
  split
  · exact ⟨rfl, fun builder => by rw [same builder (Builder.mem_all builder)]⟩
  · have agree := agree_convergeAll filed (Builder.pairwise_key_ne cluster) same
    exact ⟨agree.result, fun builder => agree.children builder (Builder.mem_all builder)⟩

end Store

end ClusterOperator
