import ClusterOperator.Proofs.Run.Passes
import ClusterOperator.Proofs.Run.Schedule

/-!
# Namespaces that are shared

What a pass asks of a server is about the namespace that is named like the object of the pass, on
the cluster that the object refers to. The Kubernetes namespace of the object does not enter. So two
passes meet at one namespace of a server only if their objects have the same name and refer to the
same cluster; then they do meet, and what one of them registers the other one may take away.
-/

namespace ClusterOperator

namespace ServerRequest

/-- The request takes a namespace away, or some of its search attributes. -/
inductive RemovesFrom (name : String) : ServerRequest → Prop
  | delete : RemovesFrom name (.delete name)
  | removeAttributes (attributes : List String) : RemovesFrom name (.removeAttributes name attributes)

/-- The request registers a namespace, or updates it. -/
inductive Registers (name : String) : ServerRequest → Prop
  | register {request : NamespaceRequest} (named : request.name = name) :
      Registers name (.register request)
  | update {request : NamespaceRequest} (named : request.name = name) :
      Registers name (.update request)

variable {request : ServerRequest} {name : String}

theorem RemovesFrom.target_eq (takes : request.RemovesFrom name) : request.target = name := by
  cases takes <;> rfl

theorem Registers.target_eq (registers : request.Registers name) : request.target = name := by
  cases registers <;> assumption

end ServerRequest

/-- A pass asks of servers only what is about the namespace named like its object, on the cluster
that its object refers to. -/
theorem Namespace.Asks.server_cases {key : ObjectKey} {history : History} {cluster : Cluster}
    {request : ServerRequest} (asks : Namespace.Asks key history (.server cluster request)) :
    ∃ held, history.Read key held ∧ history.Found held (some cluster) ∧
      request.target = held.name := by
  cases asks with
  | prepare prepares =>
      cases prepares with
      | delete read found => exact ⟨_, read, found, rfl⟩
      | converge read found _ _ _ target => exact ⟨_, read, found, target⟩

namespace Situation

variable {situation : Situation} {course : Course} {key : ObjectKey}

/-- A cluster that a pass has read stands under the key that it was read under. -/
theorem Reachable.storageKey_of_found {cluster : Cluster} (reachable : Reachable situation)
    (there : course ∈ situation.courses)
    (found : .answered (.store (.getCluster key)) (.ok (some cluster)) ∈ course.history) :
    cluster.metadata.storageKey = key := by
  refine reachable.course_induction (fun _ course =>
    .answered (.store (.getCluster key)) (.ok (some cluster)) ∈ course.history →
      cluster.metadata.storageKey = key) there ?_ ?_ ?_ found
  · intro store course settings now fresh start asked
    rw [fresh] at asked
    cases asked
  · exact fun store later course progress filed => filed
  · intro store later course turn next reached takes filed asked
    rcases takes.answered_or_now asked with before | ⟨_, answers⟩
    · exact filed before
    · exact reached.filed key cluster (Except.ok.inj (Prod.mk.inj answers).1)

/-- What a pass has asked of a server, it has asked for its object as it has read it. -/
theorem Reachable.read_of_server {cluster : Cluster} {request : ServerRequest}
    (reachable : Reachable situation) (there : course ∈ situation.courses)
    (subject : course.subject = .ns key) (asked : course.history.Asked (.server cluster request)) :
    ∃ held, course.history.Read key held ∧ held.name = request.target ∧
      held.clusterKey = cluster.metadata.storageKey := by
  rcases asked with ⟨exchange, asked, is⟩
  rcases (reachable.follows there subject).past asked with ⟨past, suffix, asks⟩
  rw [is] at asks
  rcases asks.server_cases with ⟨held, read, found, target⟩
  have before {exchange : Exchange} (known : exchange ∈ past) : exchange ∈ course.history :=
    suffix.subset (List.mem_cons_of_mem _ known)
  exact ⟨held, before read, target.symm, (reachable.storageKey_of_found there (before found)).symm⟩

/-- A pass over one object takes something from a namespace on a server that a pass over another
object has registered only if the objects, as the passes have read them, have the same name and
refer to the same cluster. If they stand under their own keys, they are then in different Kubernetes
namespaces. -/
theorem same_name_and_cluster_of_removal (situation : Situation) (taker owner : Course)
    (first second : ObjectKey) (cluster server : Cluster) (request registration : ServerRequest)
    (name : String) (reachable : Reachable situation) (there : taker ∈ situation.courses)
    (also : owner ∈ situation.courses) (takerSubject : taker.subject = .ns first)
    (ownerSubject : owner.subject = .ns second)
    (asked : taker.history.Asked (.server cluster request)) (takes : request.RemovesFrom name)
    (registered : owner.history.Asked (.server server registration))
    (registers : registration.Registers name)
    (same : cluster.metadata.storageKey = server.metadata.storageKey) :
    ∃ held kept, taker.history.Read first held ∧ owner.history.Read second kept ∧
      held.name = name ∧ kept.name = name ∧ held.clusterKey = kept.clusterKey ∧
      (held.key = first → kept.key = second → first ≠ second → first.ns ≠ second.ns) := by
  rcases reachable.read_of_server there takerSubject asked with ⟨held, read, target, key⟩
  rcases reachable.read_of_server also ownerSubject registered with ⟨kept, readToo, aim, its⟩
  have heldName := target.trans takes.target_eq
  have keptName := aim.trans registers.target_eq
  refine ⟨held, kept, read, readToo, heldName, keptName, key.trans (same.trans its.symm), ?_⟩
  rintro rfl rfl different sameNs
  have sameName : held.key.name = kept.key.name := heldName.trans keptName.symm
  refine different ?_
  change ObjectKey.mk held.key.ns held.key.name = kept.key
  rw [sameNs, sameName]

end Situation

/-- A namespace named like `Namespace.payments`, on the same cluster, in another Kubernetes
namespace. -/
def Namespace.guest : Namespace where
  metadata := { name := some "payments", ns := some "shop" }
  spec := { cluster := { name := "prod", ns := some "apps" }, allowDeletion := true }
  status := none

/-- Servers that do what they are asked, and list one search attribute of each namespace. -/
def Servers.listing : Servers
  | .server _ (.listAttributes _) => some (.ok (SortedMap.ofList [("Team", .keyword)]))
  | request => obliging request

namespace Situation

/-- A pass over an object begins. -/
def begun (situation : Situation) (subject : Subject) : Situation :=
  { situation with
    courses := situation.courses ++ [{ subject, rest := subject.program {} default }] }

/-- A pass has registered the namespace of one object. -/
def registered : Situation := (ofObjects .prod .payments).advances .obliging 0 9

/-- Then another object of that name has come, and a pass over that has ended. -/
def joined : Situation :=
  let invited : Situation :=
    { registered with store := (registered.store.insertNamespace .guest).2 }
  (invited.begun (.ns Namespace.guest.key)).advances .listing 1 11

/-- Then the deletion of that other object was requested, and a further pass has ended. -/
def emptied : Situation :=
  let dismissed : Situation :=
    { joined with store := joined.store.deleteNamespace Namespace.guest.key default }
  (dismissed.begun (.ns Namespace.guest.key)).advances .obliging 2 9

theorem reachable_registered : Reachable registered :=
  (reachable_ofObjects .prod .payments).advances .obliging 0 9

theorem exists_run_emptied : ∃ events, Run (fun _ _ _ => True) registered events emptied := by
  have goes (servers : Servers) (pass steps : Nat) (situation : Situation) :
      ∃ events, Run (fun _ _ _ => True) situation events (situation.advances servers pass steps) :=
    exists_run_advances fun _ _ _ _ => trivial
  have begins (situation : Situation) (subject : Subject) :
      Run (fun _ _ _ => True) situation [.began situation.courses.length]
        (situation.begun subject) :=
    .step .refl (.begin _ subject {} default) trivial
  have invites := Store.Change.insertNamespace registered.store .guest
  have dismisses := Store.Change.deleteNamespace joined.store Namespace.guest.key default
  have first : ∃ events, Run (fun _ _ _ => True) registered events joined := by
    rcases goes .listing 1 11 _ with ⟨events, joins⟩
    exact ⟨_, ((Run.refl.step (.outside invites) trivial).trans (begins _ (.ns _))).trans joins⟩
  have second : ∃ events, Run (fun _ _ _ => True) joined events emptied := by
    rcases goes .obliging 2 9 _ with ⟨events, leaves⟩
    exact ⟨_, ((Run.refl.step (.outside dismisses) trivial).trans (begins _ (.ns _))).trans leaves⟩
  rcases first with ⟨one, first⟩
  rcases second with ⟨two, second⟩
  exact ⟨_, first.trans second⟩

/-- What the three passes have asked of the server. -/
theorem asked_emptied :
    let cluster := (({} : Store).insertCluster .prod).1
    ∃ owner guest leaver,
      registered.courses = [owner] ∧ owner.subject = .ns Namespace.payments.key ∧
      .answered (.server cluster (.register (.of cluster .payments))) (.ok ()) ∈ owner.history ∧
      emptied.courses = [owner, guest, leaver] ∧
      guest.subject = .ns Namespace.guest.key ∧ leaver.subject = .ns Namespace.guest.key ∧
      .answered (.server cluster (.removeAttributes Namespace.payments.name ["Team"])) (.ok ()) ∈
        guest.history ∧
      .answered (.server cluster (.delete Namespace.payments.name)) (.ok ()) ∈ leaver.history := by
  refine ⟨_, _, _, rfl, rfl, ?_, rfl, rfl, rfl, ?_, ?_⟩
  · exact List.mem_of_getElem? (i := 3) rfl
  · exact List.mem_of_getElem? (i := 2) rfl
  · exact List.mem_of_getElem? (i := 2) rfl

/-- The namespace of an object that stays in the store loses its search attributes, and then is
deleted, by passes over another object. -/
theorem deleted_by_pass_over_other_object :
    let cluster := (({} : Store).insertCluster .prod).1
    Namespace.guest.key ≠ Namespace.payments.key ∧
    Reachable registered ∧ (∃ events, Run (fun _ _ _ => True) registered events emptied) ∧
    (∃ owner guest leaver,
      registered.courses = [owner] ∧ owner.subject = .ns Namespace.payments.key ∧
      .answered (.server cluster (.register (.of cluster .payments))) (.ok ()) ∈ owner.history ∧
      emptied.courses = [owner, guest, leaver] ∧
      guest.subject = .ns Namespace.guest.key ∧ leaver.subject = .ns Namespace.guest.key ∧
      .answered (.server cluster (.removeAttributes Namespace.payments.name ["Team"])) (.ok ()) ∈
        guest.history ∧
      .answered (.server cluster (.delete Namespace.payments.name)) (.ok ()) ∈ leaver.history) ∧
    (emptied.store.namespaces.get? Namespace.payments.key).isSome :=
  ⟨by decide, reachable_registered, exists_run_emptied, asked_emptied, rfl⟩

/-- The object of the pass that deletes is named like the one that registered, and refers to the
same cluster. -/
theorem same_name_and_cluster_of_removal_by_guest :
    let cluster := (({} : Store).insertCluster .prod).1
    ∃ owner leaver held kept, owner ∈ emptied.courses ∧ leaver ∈ emptied.courses ∧
      leaver.history.Asked (.server cluster (.delete "payments")) ∧
      leaver.history.Read Namespace.guest.key held ∧
      owner.history.Read Namespace.payments.key kept ∧
      held.name = "payments" ∧ kept.name = "payments" ∧ held.clusterKey = kept.clusterKey := by
  intro cluster
  rcases asked_emptied with ⟨owner, guest, leaver, _, subject, registered, courses, _, taker, _,
    deleted⟩
  rcases exists_run_emptied with ⟨events, run⟩
  have isOwner : owner ∈ emptied.courses := by simp [courses]
  have isLeaver : leaver ∈ emptied.courses := by simp [courses]
  have asked : leaver.history.Asked (.server cluster (.delete "payments")) := ⟨_, deleted, rfl⟩
  rcases same_name_and_cluster_of_removal emptied leaver owner _ _ _ _ _ _ "payments"
    (run.reachable reachable_registered) isLeaver isOwner taker subject asked .delete
    ⟨_, registered, rfl⟩ (.register rfl) rfl with
    ⟨held, kept, read, readToo, heldName, keptName, sameCluster, _⟩
  exact ⟨owner, leaver, held, kept, isOwner, isLeaver, asked, read, readToo, heldName, keptName,
    sameCluster⟩

end Situation

end ClusterOperator
