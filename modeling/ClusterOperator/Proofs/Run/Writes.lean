import ClusterOperator.Proofs.Run.Conflict

/-!
# Writes of custom resources

Among all that happens in a run, passes change a stored custom resource in one way only: a pass over
that very resource, which has read it as it is stored, makes a request to write it, and the store
accepts that.
-/

namespace ClusterOperator

namespace Store

variable {store : Store} {subject : Subject} {request : StoreRequest} {version : Option String}

theorem clusters_answer (store : Store) (noReplace : ∀ cluster, request ≠ .replaceCluster cluster)
    (noPatch : ∀ key patch, request ≠ .patchCluster key patch) :
    (store.answer request).2.clusters = store.clusters := by
  cases request with
  | replaceCluster cluster => exact absurd rfl (noReplace cluster)
  | patchCluster key patch => exact absurd rfl (noPatch key patch)
  | patchNamespace key patch => exact clusters_patchNamespace store key patch
  | createChild child =>
      dsimp only [answer, createChild]
      split <;> rfl
  | replaceChild child =>
      dsimp only [answer, replaceChild]
      split <;> rfl
  | deleteChild key =>
      dsimp only [answer, deleteChild]
      split <;> rfl
  | getCluster key => rfl
  | getNamespace key => rfl
  | listNamespaces => rfl
  | getChild key => rfl

theorem get?_clusters_answer (store : Store) (request : StoreRequest) (key : ObjectKey) :
    (store.answer request).2.clusters.get? key = store.clusters.get? key ∨
      ∃ version value, request.Overwrites (.cluster key) version ∧
        (store.answer request).1 = .ok value := by
  cases request with
  | replaceCluster cluster =>
      have overwrites := StoreRequest.Overwrites.replaceCluster cluster
      dsimp only [answer, replaceCluster] at overwrites ⊢
      split
      · exact .inl rfl
      · by_cases same : cluster.metadata.storageKey = key
        · rw [same] at overwrites
          exact .inr ⟨_, _, overwrites, rfl⟩
        · left
          exact (SortedMap.get?_insert _ _ _ _).trans (if_neg same)
  | patchCluster other patch =>
      have overwrites := StoreRequest.Overwrites.patchCluster other patch
      dsimp only [answer, patchCluster]
      split
      · exact .inl rfl
      · by_cases same : other = key
        · rw [same] at overwrites
          subst same
          exact .inr ⟨_, _, overwrites, rfl⟩
        · left
          exact (SortedMap.get?_insert _ _ _ _).trans (if_neg same)
  | _ => exact .inl (congrArg (SortedMap.get? · key) (clusters_answer store (by simp) (by simp)))

theorem get?_namespaces_answer (store : Store) (request : StoreRequest) (key : ObjectKey) :
    (store.answer request).2.namespaces.get? key = store.namespaces.get? key ∨
      ∃ version value, request.Overwrites (.ns key) version ∧
        (store.answer request).1 = .ok value := by
  cases request with
  | patchNamespace other patch =>
      have overwrites := StoreRequest.Overwrites.patchNamespace other patch
      dsimp only [answer, patchNamespace]
      split
      · exact .inl rfl
      · by_cases same : other = key
        · subst same
          exact .inr ⟨_, _, overwrites, rfl⟩
        · left
          dsimp only [countWrite]
          split
          · exact (SortedMap.get?_erase _ _ _).trans (if_neg same)
          · exact (SortedMap.get?_insert _ _ _ _).trans (if_neg same)
  | _ => exact .inl (congrArg (SortedMap.get? · key) (namespaces_answer store (by simp)))

/-- A request leaves a custom resource as it is, or writes it and is accepted. -/
theorem stored?_answer (store : Store) (request : StoreRequest) (subject : Subject) :
    subject.stored? (store.answer request).2 = subject.stored? store ∨
      ∃ version value, request.Overwrites subject version ∧
        (store.answer request).1 = .ok value := by
  cases subject with
  | cluster key =>
      refine (get?_clusters_answer store request key).imp ?_ id
      exact congrArg (Option.map CustomResource.cluster)
  | ns key =>
      refine (get?_namespaces_answer store request key).imp ?_ id
      exact congrArg (Option.map CustomResource.ns)

/-- What is written in a version is stored in that version. -/
theorem stored?_of_accepted {number : String} {value : request.Answer}
    (overwrites : request.Overwrites subject version) (bound : version = some number)
    (accepted : (store.answer request).1 = .ok value) :
    ∃ held, subject.stored? store = some held ∧ held.metadata.resourceVersion = some number := by
  apply Classical.byContradiction
  intro outdated
  have refuses := answer_of_outdated overwrites bound
    fun held there same => outdated ⟨held, there, same⟩
  rcases refuses with ⟨message, refused⟩
  rw [refused] at accepted
  cases accepted

end Store

/-- A pass writes its own resource, which is stored as it has read it. -/
structure Course.Amends (course : Course) (turn : Turn) (store later : Store)
    (held : CustomResource) (request : StoreRequest) : Prop where
  asked : turn.request? = some (.store request)
  asks : course.subject.Asks course.history (.store request)
  overwrites : request.Overwrites course.subject held.metadata.resourceVersion
  read : ∃ exchange ∈ course.history, exchange.Reads course.subject held
  stored : course.subject.stored? store = some held
  accepted : ∃ value, (store.answer request).1 = .ok value
  becomes : later = (store.answer request).2

theorem Course.Takes.store_cases {course later : Course} {turn : Turn} {store laterStore : Store}
    (takes : course.Takes store turn later laterStore) :
    laterStore = store ∨ ∃ request, turn.request? = some (.store request) ∧
      laterStore = (store.answer request).2 := by
  cases takes with
  | note todo => exact .inl rfl
  | answer awaits answered =>
      cases answered with
      | store request => exact .inr ⟨request, rfl, rfl⟩
      | connect cluster => exact .inl rfl
      | server cluster request => exact .inl rfl
      | close cluster => exact .inl rfl
  | fault awaits error attempted =>
      cases attempted with
      | done => exact .inr ⟨_, rfl, rfl⟩
      | undone => exact .inl rfl
  | cut todo attempted =>
      cases attempted with
      | done request => exact .inr ⟨request, rfl, rfl⟩
      | undone => exact .inl rfl

namespace Situation

variable {before : Situation} {course later : Course} {turn : Turn} {laterStore : Store}
  {request : StoreRequest} {held : CustomResource} {exchange : Exchange}

/-- What a pass writes as it has read it is stored as it has read it. -/
theorem Reachable.stored_of_accepted {value : request.Answer} (reachable : Reachable before)
    (there : course ∈ before.courses) (read : exchange ∈ course.history)
    (reads : exchange.Reads course.subject held)
    (overwrites : request.Overwrites course.subject held.metadata.resourceVersion)
    (accepted : (before.store.answer request).1 = .ok value) :
    course.subject.stored? before.store = some held := by
  -- The store takes only a write in the version that is stored, and an object that was read in a
  -- version is the only one that is ever stored in it.
  have pinned := reachable.readsPinned there
  generalize course.subject = subject at reads overwrites ⊢
  cases reads with
  | cluster key cluster =>
      rcases pinned.clusters key cluster read with ⟨⟨number, _, carried⟩, alone⟩
      rcases Store.stored?_of_accepted overwrites carried accepted with ⟨other, stored, same⟩
      rcases Option.map_eq_some_iff.mp stored with ⟨found, isThere, rfl⟩
      rw [alone found isThere (same.trans carried.symm)] at isThere
      exact Store.stored?_cluster isThere
  | ns key ns =>
      rcases pinned.namespaces key ns read with ⟨⟨number, _, carried⟩, alone⟩
      rcases Store.stored?_of_accepted overwrites carried accepted with ⟨other, stored, same⟩
      rcases Option.map_eq_some_iff.mp stored with ⟨found, isThere, rfl⟩
      rw [alone found isThere (same.trans carried.symm)] at isThere
      exact Store.stored?_ns isThere

theorem Reachable.filed_of_reads (reachable : Reachable before) (there : course ∈ before.courses)
    (read : exchange ∈ course.history) (reads : exchange.Reads course.subject held) :
    held.Filed course.subject := by
  refine reachable.course_induction (fun _ course => ∀ exchange ∈ course.history, ∀ held,
    Exchange.Reads exchange course.subject held → held.Filed course.subject) there ?_ ?_ ?_
    exchange read held reads
  · intro store course settings now fresh start exchange there
    rw [fresh] at there
    cases there
  · intro store later course progress filed
    exact filed
  · intro store later course turn next reached takes filed exchange there held reads
    rw [takes.subject_eq] at reads ⊢
    rcases takes.history_cases with same | ⟨last, same, now⟩
    · rw [same] at there
      exact filed exchange there held reads
    · rw [same] at there
      rcases List.mem_cons.mp there with rfl | there
      · rcases now with rfl | ⟨request, error, rfl⟩
        · exact reached.filed_of_stored? (takes.stored_of_reads reads).2
        · cases reads
      · exact filed exchange there held reads

theorem Reachable.amends_of_accepted {subject : Subject} {version : Option String}
    {value : request.Answer} (reachable : Reachable before) (there : course ∈ before.courses)
    (takes : course.Takes before.store turn later laterStore)
    (asked : turn.request? = some (.store request)) (writes : request.Overwrites subject version)
    (accepted : (before.store.answer request).1 = .ok value)
    (becomes : laterStore = (before.store.answer request).2) :
    subject = course.subject ∧ ∃ held, course.Amends turn before.store laterStore held request := by
  -- What a pass asks to be written it has read, and what it has read under its key is its own.
  have asks := (takes.of_request (reachable.course_keeps there) asked).1
  rcases asks.exists_read writes with ⟨exchange, read, held, reads, rfl, own⟩
  cases own (reachable.filed_of_reads there read reads)
  have stored := reachable.stored_of_accepted there read reads writes accepted
  exact ⟨rfl, held, asked, asks, writes, ⟨exchange, read, reads⟩, stored, ⟨value, accepted⟩,
    becomes⟩

/-- A pass leaves every custom resource as it is, but its own, which it may write. -/
theorem Reachable.amends_of_changed (reachable : Reachable before)
    (there : course ∈ before.courses) (takes : course.Takes before.store turn later laterStore)
    (subject : Subject) :
    subject.stored? laterStore = subject.stored? before.store ∨
      subject = course.subject ∧ ∃ held request,
        course.Amends turn before.store laterStore held request := by
  rcases takes.store_cases with rfl | ⟨request, asked, becomes⟩
  · exact .inl rfl
  rcases before.store.stored?_answer request subject with same | ⟨version, value, writes, accepted⟩
  · rw [becomes]
    exact .inl same
  · rcases reachable.amends_of_accepted there takes asked writes accepted becomes with
      ⟨own, held, amends⟩
    exact .inr ⟨own, held, request, amends⟩

end Situation

end ClusterOperator
