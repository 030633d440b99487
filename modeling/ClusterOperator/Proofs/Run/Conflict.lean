import ClusterOperator.Proofs.Cluster.Children
import ClusterOperator.Proofs.Run.Passes
import ClusterOperator.Proofs.Run.Schedule

/-!
# Conflicts

A version stands for one content of an object for ever: in no run are two different contents of one
cluster or namespace stored with the same version, whatever is deleted and created again in between.
A pass writes its object in the version of its first request, which is to read the object. So its
writes are accepted as long as nobody has changed the object, itself included, and from the first
change on all of them are refused as conflicts, and leave what the others have written.
-/

namespace ClusterOperator

/-- A custom resource of either kind. -/
inductive CustomResource where
  | cluster (held : Cluster)
  | ns (held : Namespace)

def CustomResource.metadata : CustomResource → Metadata
  | cluster held => held.metadata
  | ns held => held.metadata

namespace Subject

def key : Subject → ObjectKey
  | cluster key => key
  | ns key => key

/-- The request by which a pass reads its object. -/
def reading : Subject → StoreRequest
  | cluster key => .getCluster key
  | ns key => .getNamespace key

/-- The object of a pass as it is stored. -/
def stored? (store : Store) : Subject → Option CustomResource
  | cluster key => (store.clusters.get? key).map .cluster
  | ns key => (store.namespaces.get? key).map .ns

end Subject

/-- The object of a pass is read as this one. -/
inductive Exchange.Reads : Exchange → Subject → CustomResource → Prop
  | cluster (key : ObjectKey) (held : Cluster) :
      Reads (.answered (.store (.getCluster key)) (.ok (some held))) (.cluster key) (.cluster held)
  | ns (key : ObjectKey) (held : Namespace) :
      Reads (.answered (.store (.getNamespace key)) (.ok (some held))) (.ns key) (.ns held)

/-- The request writes a custom resource that is to be of a version. -/
inductive StoreRequest.Overwrites : StoreRequest → Subject → Option String → Prop
  | replaceCluster (replacement : Cluster) :
      Overwrites (.replaceCluster replacement) (.cluster replacement.metadata.storageKey)
        replacement.metadata.resourceVersion
  | patchCluster (key : ObjectKey) (patch : ObjectPatch ClusterStatus) :
      Overwrites (.patchCluster key patch) (.cluster key) patch.resourceVersion
  | patchNamespace (key : ObjectKey) (patch : ObjectPatch NamespaceStatus) :
      Overwrites (.patchNamespace key patch) (.ns key) patch.resourceVersion

/-- What is asked in a step of a pass. -/
def Turn.request? : Turn → Option Request
  | noted => none
  | exchanged exchange => some exchange.request
  | faulted exchange => some exchange.request

namespace Store

variable {store later : Store} {subject : Subject} {held other : CustomResource}

theorem stored?_cluster {key : ObjectKey} {cluster : Cluster}
    (there : store.clusters.get? key = some cluster) :
    (Subject.cluster key).stored? store = some (.cluster cluster) := by
  rw [Subject.stored?, there]
  rfl

theorem stored?_ns {key : ObjectKey} {ns : Namespace}
    (there : store.namespaces.get? key = some ns) :
    (Subject.ns key).stored? store = some (.ns ns) := by
  rw [Subject.stored?, there]
  rfl

theorem writable_of_outdated {α : Type} (metadata : α → Metadata) {stored : Option α}
    {expected : Option String} {version : String} (object : String)
    (bound : expected = some version)
    (outdated : ∀ held, stored = some held → (metadata held).resourceVersion ≠ some version) :
    ∃ message, writable metadata object stored expected = .error (.conflict object message) := by
  rw [bound]
  cases stored with
  | none => exact ⟨_, rfl⟩
  | some held => exact ⟨_, if_neg (outdated held rfl)⟩

/-- A write that names another version than the stored one is refused, and changes nothing. -/
theorem answer_of_outdated {request : StoreRequest} {expected : Option String} {version : String}
    (overwrites : request.Overwrites subject expected) (bound : expected = some version)
    (outdated : ∀ held, subject.stored? store = some held →
      held.metadata.resourceVersion ≠ some version) :
    ∃ message, store.answer request =
      (.error (.conflict subject.key.text message), store.advance) := by
  have sameClusters : store.advance.clusters = store.clusters := rfl
  have sameNamespaces : store.advance.namespaces = store.namespaces := rfl
  cases overwrites with
  | replaceCluster replacement =>
      rcases writable_of_outdated Resource.metadata replacement.metadata.storageKey.text bound
        fun held there => outdated (.cluster held) (stored?_cluster there) with ⟨message, refused⟩
      refine ⟨message, ?_⟩
      dsimp only [answer, replaceCluster]
      rw [sameClusters, refused]
      rfl
  | patchCluster key patch =>
      rcases writable_of_outdated Resource.metadata key.text bound
        fun held there => outdated (.cluster held) (stored?_cluster there) with ⟨message, refused⟩
      refine ⟨message, ?_⟩
      dsimp only [answer, patchCluster]
      rw [sameClusters, refused]
      rfl
  | patchNamespace key patch =>
      rcases writable_of_outdated Resource.metadata key.text bound
        fun held there => outdated (.ns held) (stored?_ns there) with ⟨message, refused⟩
      refine ⟨message, ?_⟩
      dsimp only [answer, patchNamespace]
      rw [sameNamespaces, refused]
      rfl

/-- A write that names the version of the stored object is accepted. -/
theorem answer_of_current {request : StoreRequest} {expected : Option String}
    (overwrites : request.Overwrites subject expected) (there : subject.stored? store = some held)
    (bound : expected = held.metadata.resourceVersion) :
    ∃ value, (store.answer request).1 = .ok value := by
  cases overwrites with
  | replaceCluster replacement =>
      rcases Option.map_eq_some_iff.mp there with ⟨cluster, stored, rfl⟩
      have replaced := replaceCluster_of_current stored bound
      exact ⟨_, congrArg Prod.fst replaced⟩
  | patchCluster key patch =>
      rcases Option.map_eq_some_iff.mp there with ⟨cluster, stored, rfl⟩
      exact ⟨(), (patchCluster_of_current stored bound).1⟩
  | patchNamespace key patch =>
      rcases Option.map_eq_some_iff.mp there with ⟨ns, stored, rfl⟩
      exact ⟨(), (patchNamespace_of_current stored bound).1⟩

/-- A version that was handed out by now. -/
def HandedOut (store : Store) (version : Option String) : Prop :=
  ∃ number ≤ store.version, version = some (toString number)

theorem Versioned.handedOut (versioned : store.Versioned)
    (there : subject.stored? store = some held) :
    store.HandedOut held.metadata.resourceVersion := by
  cases subject with
  | cluster key =>
      rcases Option.map_eq_some_iff.mp there with ⟨cluster, stored, rfl⟩
      exact versioned.clusters key cluster stored
  | ns key =>
      rcases Option.map_eq_some_iff.mp there with ⟨ns, stored, rfl⟩
      exact versioned.namespaces key ns stored

/-- What is stored in a version that is older than the store was stored all the time since then. -/
theorem Advances.stored?_of_handedOut (advances : Advances store later)
    (handedOut : store.HandedOut held.metadata.resourceVersion)
    (there : subject.stored? later = some held) : subject.stored? store = some held := by
  rcases handedOut with ⟨number, older, carries⟩
  cases subject with
  | cluster key =>
      rcases Option.map_eq_some_iff.mp there with ⟨cluster, stored, rfl⟩
      exact stored?_cluster (advances.clusters.get?_of_older older carries stored)
  | ns key =>
      rcases Option.map_eq_some_iff.mp there with ⟨ns, stored, rfl⟩
      exact stored?_ns (advances.namespaces.get?_of_older older carries stored)

/-- A version stands for one content, now and later on. -/
theorem Advances.eq_of_version_eq (advances : Advances store later) (versioned : store.Versioned)
    (there : subject.stored? store = some held) (stored : subject.stored? later = some other)
    (same : other.metadata.resourceVersion = held.metadata.resourceVersion) : other = held := by
  have handedOut := versioned.handedOut there
  rw [← same] at handedOut
  have before := advances.stored?_of_handedOut handedOut stored
  exact Option.some_inj.mp (before.symm.trans there)

/-- Once an object has changed, what is stored is never again in the version that it had. -/
theorem Versioned.outdated_of_changed {middle : Store} (versioned : store.Versioned)
    (there : subject.stored? store = some held) (first : Advances store middle)
    (second : Advances middle later) (changed : subject.stored? middle ≠ some held) :
    ∃ version, held.metadata.resourceVersion = some version ∧
      ∀ other, subject.stored? later = some other →
        other.metadata.resourceVersion ≠ some version := by
  rcases versioned.handedOut there with ⟨number, older, carries⟩
  refine ⟨_, carries, fun other stored same => changed ?_⟩
  have isIt := (first.trans second).eq_of_version_eq versioned there stored
    (same.trans carries.symm)
  subst isIt
  have handedOut : middle.HandedOut other.metadata.resourceVersion :=
    ⟨number, Nat.le_trans older first.version_le, carries⟩
  exact second.stored?_of_handedOut handedOut stored

end Store

/-- The object stands under its own key; of namespaces it does not matter. -/
def CustomResource.Filed : CustomResource → Subject → Prop
  | cluster held, .cluster key => held.metadata.storageKey = key
  | _, _ => True

theorem Store.Reached.filed_of_stored? {store : Store} {subject : Subject} {held : CustomResource}
    (reached : store.Reached) (there : subject.stored? store = some held) : held.Filed subject := by
  cases subject with
  | cluster key =>
      rcases Option.map_eq_some_iff.mp there with ⟨cluster, stored, rfl⟩
      exact reached.filed key cluster stored
  | ns key =>
      rcases Option.map_eq_some_iff.mp there with ⟨ns, stored, rfl⟩
      exact trivial

namespace Subject

variable {subject target : Subject} {history : History} {exchange : Exchange}
  {request : StoreRequest} {held : CustomResource} {version : Option String}

/-- A pass reads its object before everything else. -/
theorem Asks.past_eq_nil (asks : subject.Asks history (.store subject.reading)) : history = [] := by
  cases subject with
  | cluster key => exact (Cluster.Asks.past_of_read asks).2
  | ns key => exact (Namespace.Asks.past_of_read asks).2

/-- A pass writes no custom resource but its own object, and that in the version that it has read.
-/
theorem Asks.exists_read (asks : subject.Asks history (.store request))
    (overwrites : request.Overwrites target version) :
    ∃ exchange ∈ history, ∃ held, exchange.Reads subject held ∧
      version = held.metadata.resourceVersion ∧ (held.Filed subject → target = subject) := by
  cases subject with
  | cluster key =>
      have reads (held : Cluster) := Exchange.Reads.cluster key held
      cases asks with
      | object => cases overwrites
      | fill read opened =>
          cases overwrites
          exact ⟨_, read, _, reads _, rfl, fun filed => congrArg Subject.cluster filed⟩
      | tend read normal tends => cases tends <;> cases overwrites
      | write now result read same =>
          cases overwrites
          exact ⟨_, read, _, reads _, rfl, fun _ => rfl⟩
  | ns key =>
      cases asks with
      | prepare prepares => cases prepares <;> cases overwrites
      | write now read unwritten leaves =>
          cases overwrites
          exact ⟨_, read, _, .ns key _, rfl, fun _ => rfl⟩

end Subject

theorem Exchange.Reads.request_eq {exchange : Exchange} {subject : Subject} {held : CustomResource}
    (reads : exchange.Reads subject held) : exchange.request = .store subject.reading := by
  cases reads <;> rfl

/-- A pass reads its object once. -/
theorem History.Follows.reads_unique {subject : Subject} {history : History}
    {first second : Exchange} {held other : CustomResource} (follows : history.Follows subject.Asks)
    (asked : first ∈ history) (reads : first.Reads subject held)
    (also : second ∈ history) (readsToo : second.Reads subject other) : held = other := by
  have same := follows.eq_of_first (fun _ asks => asks.past_eq_nil) asked reads.request_eq
    also readsToo.request_eq
  subst same
  cases reads <;> cases readsToo <;> rfl

namespace Course

variable {course later : Course} {turn : Turn} {request : Request} {store laterStore : Store}

/-- A read gives what is stored. -/
theorem Takes.stored_of_reads {exchange : Exchange} {subject : Subject} {held : CustomResource}
    (takes : course.Takes store (.exchanged exchange) later laterStore)
    (reads : exchange.Reads subject held) :
    laterStore = store ∧ subject.stored? store = some held := by
  cases reads with
  | cluster key held =>
      cases takes with
      | answer awaits answered =>
          rcases Prod.mk.inj answered.store_eq with ⟨found, same⟩
          exact ⟨same, Store.stored?_cluster (Except.ok.inj found).symm⟩
  | ns key held =>
      cases takes with
      | answer awaits answered =>
          rcases Prod.mk.inj answered.store_eq with ⟨found, same⟩
          exact ⟨same, Store.stored?_ns (Except.ok.inj found).symm⟩

/-- What a pass asks of the store in a step, it may ask. The store does that or nothing, and where
it answers it has done it. -/
theorem Takes.of_request {request : StoreRequest} {allowed : History → Request → Prop}
    {fits : History → Except Error Action → Prop} (takes : course.Takes store turn later laterStore)
    (keeps : course.Keeps allowed fits) (asked : turn.request? = some (.store request)) :
    allowed course.history (.store request) ∧
      (laterStore = store ∨ laterStore = (store.answer request).2) ∧
      ∀ answer, turn = .exchanged (.answered (.store request) answer) →
        answer = (store.answer request).1 := by
  have attempts {laterStore : Store} (attempted : Attempted (.store request) store laterStore) :
      laterStore = store ∨ laterStore = (store.answer request).2 := by
    cases attempted with
    | done => exact .inr rfl
    | undone => exact .inl rfl
  cases takes with
  | note todo => cases asked
  | answer awaits answered =>
      cases asked
      rcases Prod.mk.inj answered.store_eq with ⟨answers, becomes⟩
      refine ⟨(awaits.keeps keeps.keeps).1, .inr becomes, ?_⟩
      rintro answer ⟨⟩
      exact answers
  | fault awaits error attempted =>
      cases asked
      exact ⟨(awaits.keeps keeps.keeps).1, attempts attempted, nofun⟩
  | cut todo attempted =>
      cases asked
      have allows := keeps.keeps
      rw [todo] at allows
      exact ⟨allows.1, attempts attempted, nofun⟩

end Course

namespace Situation

variable {rule : Situation → Event → Situation → Prop} {before after : Situation} {pass : Nat}
  {course : Course}

/-- In the step in which a pass reads its object, that is stored as the pass reads it. -/
theorem Step.stored_of_reads {exchange : Exchange} {held : CustomResource}
    (step : Step before (.turn pass (.exchanged exchange)) after)
    (there : before.courses[pass]? = some course) (reads : exchange.Reads course.subject held) :
    course.subject.stored? before.store = some held ∧ after.store = before.store ∧
      ∃ later, after.courses[pass]? = some later ∧ later.subject = course.subject ∧
        exchange ∈ later.history := by
  cases step with
  | turn found takes =>
      cases there.symm.trans found
      rcases takes.stored_of_reads reads with ⟨same, stored⟩
      have inside := (List.getElem?_eq_some_iff.mp found).1
      exact ⟨stored, same, _, List.getElem?_set_self inside, takes.subject_eq, takes.exchanged_mem⟩

/-- A pass that has read its object writes no other custom resource, and writes that in the version
that it has read. -/
theorem Step.write_of_read {exchange : Exchange} {held : CustomResource} {turn : Turn}
    {request : StoreRequest} {target : Subject} {version : Option String}
    (step : Step before (.turn pass turn) after) (reachable : Reachable before)
    (there : before.courses[pass]? = some course) (read : exchange ∈ course.history)
    (reads : exchange.Reads course.subject held) (filed : held.Filed course.subject)
    (asked : turn.request? = some (.store request))
    (overwrites : request.Overwrites target version) :
    target = course.subject ∧ version = held.metadata.resourceVersion ∧
      (after.store = before.store ∨ after.store = (before.store.answer request).2) ∧
      ∀ answer, turn = .exchanged (.answered (.store request) answer) →
        answer = (before.store.answer request).1 := by
  cases step with
  | turn found takes =>
      cases there.symm.trans found
      have keeps := reachable.course_keeps (List.mem_of_getElem? found)
      rcases takes.of_request keeps asked with ⟨asks, effect, answers⟩
      rcases asks.exists_read overwrites with ⟨_, also, known, readsToo, bound, own⟩
      cases keeps.follows.reads_unique read reads also readsToo
      exact ⟨own filed, bound, effect, answers⟩

/-- In no run does one version stand for two contents of an object, whatever is deleted and created
again. A pass that has read its object writes no other custom resource, and that in the version that
it has read. If the object has changed at any time in between, whoever has changed it and also if it
is gone or was created again, then the write changes no object, and where the store does not fail
and the deadline does not strike it is answered as a conflict. If the object is as it was read, the
write is accepted. -/
theorem conflict_of_changed :
    (∀ (start finish : Situation) (events : List Event) (subject : Subject)
      (held other : CustomResource),
      Reachable start → Run rule start events finish →
      subject.stored? start.store = some held → subject.stored? finish.store = some other →
      other.metadata.resourceVersion = held.metadata.resourceVersion → other = held) ∧
    ∀ (start first middle before after : Situation) (pass : Nat) (course : Course)
      (read : Exchange) (held : CustomResource) (earlier further : List Event) (turn : Turn)
      (request : StoreRequest) (target : Subject) (version : Option String),
      Reachable start → start.courses[pass]? = some course →
      Step start (.turn pass (.exchanged read)) first → read.Reads course.subject held →
      Run rule first earlier middle → Run rule middle further before →
      Step before (.turn pass turn) after → turn.request? = some (.store request) →
      request.Overwrites target version →
      target = course.subject ∧ version = held.metadata.resourceVersion ∧
      (course.subject.stored? middle.store ≠ some held →
        Store.Alike before.store after.store ∧
        ∀ answer, turn = .exchanged (.answered (.store request) answer) →
          ∃ message, answer = .error (.conflict course.subject.key.text message)) ∧
      (course.subject.stored? before.store = some held →
        ∀ answer, turn = .exchanged (.answered (.store request) answer) →
          ∃ value, answer = .ok value) := by
  refine ⟨?_, ?_⟩
  · intro start finish events subject held other reachable run there stored same
    exact run.advances.eq_of_version_eq reachable.versioned there stored same
  · intro start first middle before after pass course read held earlier further turn request target
      version reachable there begins reads one two step asked overwrites
    rcases begins.stored_of_reads there reads with ⟨stored, same, begun, found, subject, known⟩
    rcases (one.trans two).course_of found with ⟨taker, stays, alike, suffix⟩
    have isOver : taker.subject = course.subject := alike.trans subject
    rw [← isOver] at reads stored ⊢
    have filed := reachable.reached.filed_of_stored? stored
    have reachable' := (one.trans two).reachable (reachable.step begins)
    have isKnown := suffix.subset known
    rcases step.write_of_read reachable' stays isKnown reads filed asked overwrites with
      ⟨rfl, bound, effect, answers⟩
    refine ⟨rfl, bound, fun changed => ?_, fun current answer answered => ?_⟩
    · have advances : Store.Advances start.store middle.store := by
        rw [← same]
        exact one.advances
      rcases reachable.versioned.outdated_of_changed stored advances two.advances changed with
        ⟨number, carries, outdated⟩
      rcases Store.answer_of_outdated overwrites (bound.trans carries) outdated with
        ⟨message, refused⟩
      refine ⟨?_, fun answer answered => ⟨message, ?_⟩⟩
      · rcases effect with untouched | refusal
        · rw [untouched]
          exact .refl _
        · rw [refusal, refused]
          exact Store.alike_advance _
      · rw [answers answer answered, refused]
    · rcases Store.answer_of_current overwrites current bound with ⟨value, accepted⟩
      exact ⟨value, (answers answer answered).trans accepted⟩

/-- A namespace is deleted and created again, with the same content, while a pass registers it; the
patch of the pass does not reach the new object. -/
theorem conflict_of_recreated :
    let due := (ofObjects .prod .payments).advances .obliging 0 7
    let gone : Situation :=
      { due with store := due.store.deleteNamespace Namespace.payments.key default }
    let again : Situation := { gone with store := (gone.store.insertNamespace .payments).2 }
    ∃ sent message after,
      Step again
        (.turn 0 (.exchanged (.answered (.store (.patchNamespace Namespace.payments.key sent))
          (.error (.conflict Namespace.payments.key.text message))))) after ∧
      Store.Alike again.store after.store := by
  have reachable := reachable_ofObjects .prod .payments
  have begins : Step (ofObjects .prod .payments) (.turn 0 _)
      ((ofObjects .prod .payments).advances .obliging 0 1) := step_advance .obliging rfl rfl
  have prepares : ∃ events, Run (fun _ _ _ => True)
      ((ofObjects .prod .payments).advances .obliging 0 1) events
      (((ofObjects .prod .payments).advances .obliging 0 1).advances .obliging 0 6) :=
    exists_run_advances fun _ _ _ _ => trivial
  obtain ⟨held, stored, bare⟩ :
      ∃ held, (ofObjects .prod .payments).store.namespaces.get? Namespace.payments.key =
        some held ∧ held.metadata.finalizerList = [] := ⟨_, rfl, rfl⟩
  have untouched : ((ofObjects .prod .payments).advances .obliging 0 7).store =
      (ofObjects .prod .payments).store := rfl
  obtain ⟨course, sent, next, there, awaits⟩ : ∃ course sent next,
      ((ofObjects .prod .payments).advances .obliging 0 7).courses[0]? = some course ∧
        course.rest.Awaits (.store (.patchNamespace Namespace.payments.key sent)) next :=
    ⟨_, _, _, rfl, .call _ _⟩
  change ∃ events, Run _ _ events ((ofObjects .prod .payments).advances .obliging 0 7) at prepares
  rcases prepares with ⟨events, prepares⟩
  -- from here on it does not matter how the pass has come this far
  generalize (ofObjects .prod .payments).advances .obliging 0 7 = due at *
  intro _ gone again
  have leaves : Run (fun _ _ _ => True) due [.outside] gone :=
    .step .refl (.outside (.deleteNamespace _ _ _)) trivial
  have returns : Run (fun _ _ _ => True) gone [.outside] again :=
    .step .refl (.outside (.insertNamespace _ _)) trivial
  have changed : (Subject.ns Namespace.payments.key).stored? gone.store ≠ some (.ns held) := by
    have isThere : due.store.namespaces.get? Namespace.payments.key = some held := by
      rw [untouched, stored]
    have isGone := (Store.get?_deleteNamespace isThere default).1 bare
    rw [Subject.stored?, isGone]
    exact nofun
  have patches : Step again (.turn 0 (.exchanged (.answered _ _))) _ :=
    .turn there (.answer awaits (.store _ again.store))
  rw [stored] at begins
  have conflicts := conflict_of_changed.2 _ _ gone again _ 0 _ _ _ _ _ _ _ _ _ reachable rfl begins
    (.ns _ held) (prepares.trans leaves) returns patches rfl (.patchNamespace _ _)
  rcases conflicts with ⟨_, _, refused, _⟩
  rcases refused changed with ⟨alike, answered⟩
  rcases answered _ rfl with ⟨message, same⟩
  rw [same] at patches
  exact ⟨sent, message, _, patches, alike⟩

end Situation

end ClusterOperator
