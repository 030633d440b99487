import ClusterOperator.Proofs.Attribute.Rounds
import ClusterOperator.Proofs.Condition.Settled
import ClusterOperator.Proofs.Namespace.Departure
import ClusterOperator.Proofs.Namespace.Release
import ClusterOperator.Proofs.Namespace.RemoteDeletion
import ClusterOperator.Proofs.Simulation.Calm

/-!
# Undisturbed namespace passes

A pass that nothing disturbs registers the namespace, brings its attributes to those of the spec,
aligns the finalizer and reports success. The pass after it finds all of this as it left it: it
updates the registration and lists the attributes, and changes nothing else.
-/

namespace ClusterOperator

namespace Condition

/-- The conditions after a pass that has registered the namespace. -/
def registered (now : Instant) (conditions : List Condition) : List Condition :=
  markSuccess now (set (Namespace.readyCondition now) conditions).1

variable {now later : Instant} {conditions : List Condition}

theorem said_registered (now later : Instant) (conditions : List Condition) :
    (Namespace.readyCondition later).Said (registered now conditions) := by
  have said : (Namespace.readyCondition now).Said (registered now conditions) := by
    have noSuccess : successType ≠ readyType := by decide
    have noError : errorType ≠ readyType := by decide
    exact (said_set _ _).markSuccess noSuccess noError now
  exact said

theorem registered_registered : registered later (registered now conditions) =
    registered now conditions := by
  rw [registered, set_of_said (said_registered now later conditions)]
  exact markSuccess_markSuccess now later _

end Condition

namespace Namespace

variable {ns stored : Namespace} {now later : Instant}

/-- The object as a pass leaves it that has registered the namespace. -/
def settled (now : Instant) (ns : Namespace) : Namespace :=
  Resource.record now (.ok .success) <|
    ns.alignFinalizer.mapConditions fun conditions =>
      (Condition.set (readyCondition now) conditions).1

/-- The object of a namespace that is as it should be. -/
structure Settled (ns stored : Namespace) : Prop where
  spec : stored.spec = ns.spec
  reports : ∃ status, stored.status = some status ∧
    Condition.isTrue Condition.readyType status.conditions ∧
    Condition.isTrue Condition.successType status.conditions ∧
    Condition.find? Condition.errorType status.conditions = none
  finalizer : stored.hasFinalizer = ns.spec.allowDeletion
  others : stored.otherFinalizers = ns.otherFinalizers

theorem status_settled (now : Instant) (ns : Namespace) :
    (ns.settled now).status =
      some { conditions := Condition.registered now ns.statusOrInitial.conditions } := by
  have same : ns.alignFinalizer.statusOrInitial = ns.statusOrInitial :=
    congrArg (Option.getD · HasConditions.initial) (frame_alignFinalizer ns).2.1
  rw [← same]
  rfl

theorem finalizerList_settled (now : Instant) (ns : Namespace) :
    (ns.settled now).metadata.finalizerList = ns.alignFinalizer.metadata.finalizerList :=
  rfl

theorem hasFinalizer_aligned (ns : Namespace) :
    ns.alignFinalizer.hasFinalizer = ns.spec.allowDeletion := by
  cases allowed : ns.spec.allowDeletion with
  | true => exact hasFinalizer_alignFinalizer allowed
  | false =>
      rw [alignFinalizer, allowed]
      exact hasFinalizer_removeFinalizer ns

theorem otherFinalizers_aligned (ns : Namespace) :
    ns.alignFinalizer.otherFinalizers = ns.otherFinalizers := by
  unfold alignFinalizer addFinalizer removeFinalizer
  split
  · split
    · rfl
    · simp [otherFinalizers, withFinalizers, Metadata.finalizerList]
  · simp [otherFinalizers, withFinalizers, Metadata.finalizerList, List.filter_filter]

/-- An aligned finalizer is not aligned again. -/
theorem finalizerList_aligned (aligned : ns.hasFinalizer = ns.spec.allowDeletion) :
    ns.alignFinalizer.metadata.finalizerList = ns.metadata.finalizerList := by
  unfold alignFinalizer addFinalizer
  split
  · rename_i allowed
    rw [allowed] at aligned
    rw [if_pos aligned]
  · rename_i disallowed
    rw [eq_false_of_ne_true disallowed, hasFinalizer, List.any_eq_false] at aligned
    apply List.filter_eq_self.mpr
    intro finalizer there
    simpa using aligned finalizer there

theorem settled_of_fields (spec : stored.spec = ns.spec)
    (finalizers : stored.metadata.finalizerList = (ns.settled now).metadata.finalizerList)
    (status : stored.status = (ns.settled now).status) : ns.Settled stored := by
  rw [finalizerList_settled] at finalizers
  refine ⟨spec, ⟨_, status.trans (status_settled now ns), ?_, ?_, ?_⟩, ?_, ?_⟩
  · exact (Condition.isTrue_iff_of_said (Condition.said_registered now now _)).mpr rfl
  · exact Condition.isTrue_markSuccess now _
  · exact Condition.find?_markSuccess now _
  · exact (hasFinalizer_eq_of_finalizerList_eq finalizers).trans (hasFinalizer_aligned ns)
  · rw [otherFinalizers, finalizers]
    exact otherFinalizers_aligned ns

/-- What is settled is left as it is. -/
theorem isEmpty_between_settled (settled : ns.Settled stored)
    (status : stored.status = (ns.settled now).status) :
    (ObjectPatch.between stored (stored.settled later)).isEmpty := by
  have aligned : stored.hasFinalizer = stored.spec.allowDeletion := by
    rw [settled.spec]
    exact settled.finalizer
  have finalizers : (ObjectPatch.between stored (stored.settled later)).finalizers = none :=
    if_pos (finalizerList_aligned aligned)
  have same : (stored.settled later).status = stored.status := by
    rw [status_settled now ns] at status
    rw [status_settled, Resource.statusOrInitial, status]
    simp only [Option.getD_some, Condition.registered_registered]
  have unwritten : (ObjectPatch.between stored (stored.settled later)).status = none := if_pos same
  rw [ObjectPatch.isEmpty, finalizers, unwritten]
  rfl

/-- What is stored after a pass, whether it had to write or not. -/
theorem exists_settled {store : Store} {key : ObjectKey}
    (there : store.namespaces.get? key = some ns) (alive : ns.metadata.isDeleting = false) :
    let patch := ObjectPatch.between ns (ns.settled now)
    ∃ stored,
      (if patch.isEmpty then store
        else (store.patchNamespace key patch).2).namespaces.get? key = some stored ∧
      ns.Settled stored ∧ stored.status = (ns.settled now).status ∧
      stored.metadata.isDeleting = false ∧ stored.clusterKey = ns.clusterKey ∧
      ∀ cluster, NamespaceRequest.of cluster stored = .of cluster ns := by
  intro patch
  split
  · rename_i empty
    simp only [ObjectPatch.isEmpty, Bool.and_eq_true, Option.isNone_iff_eq_none] at empty
    have finalizers : ns.metadata.finalizerList = (ns.settled now).metadata.finalizerList := by
      have unchanged : patch.finalizers = none := empty.1
      simp only [patch, ObjectPatch.between, ite_eq_left_iff, reduceCtorEq, imp_false,
        Decidable.not_not] at unchanged
      exact unchanged.symm
    have status : ns.status = (ns.settled now).status := by
      have unchanged : patch.status = none := empty.2
      simp only [patch, ObjectPatch.between, status_settled, ite_eq_left_iff, reduceCtorEq,
        imp_false, Decidable.not_not] at unchanged
      rw [status_settled, unchanged]
    exact ⟨ns, there, settled_of_fields rfl finalizers status, status, alive, rfl, fun _ => rfl⟩
  · have finalizers := Resource.finalizerList_withPatch_between ns (ns.settled now) store.advance
    have status : (ns.withPatch patch store.advance).status = (ns.settled now).status := by
      simp only [Resource.withPatch, patch, ObjectPatch.between]
      split
      · rename_i same
        exact same.symm
      · rw [status_settled]
        rfl
    have kept : ns.patched patch store.advance = some (ns.withPatch patch store.advance) := by
      have unreleased : (ns.withPatch patch store.advance).metadata.isReleased = false := by
        have same : (ns.withPatch patch store.advance).metadata.isDeleting = false := alive
        rw [Metadata.isReleased, same]
        rfl
      rw [patched, if_neg (ne_true_of_eq_false unreleased)]
    refine ⟨ns.withPatch patch store.advance, ?_, ?_⟩
    · rw [(Store.patchNamespace_of_current there rfl).2, kept]
    · exact ⟨settled_of_fields rfl finalizers status, status, alive, rfl, fun _ => rfl⟩

end Namespace

namespace World

open Program

variable {α β : Type} {rules : WorldRules} {world : World} {cluster : Cluster} {name : String}
  {present next wanted : StringMap AttributeType} {spec : StringMap String}

/-- A connection is opened, used and closed. -/
theorem run_withConnection_of_calm {cluster : Cluster} {use : Fallible α}
    {result : Except Error α} {server : Server} {asked : List Request}
    (calm : world.faults = [])
    (connects : rules.checksAddress → ∃ url, cluster.frontendUrl = .ok url)
    (uses : use.run.run (environment rules) (world.served world.server [.connect cluster]) =
      (result, (world.served world.server [.connect cluster]).served server asked)) :
    (withConnection cluster use).run.run (environment rules) world =
      (result, world.served server (.connect cluster :: asked ++ [.close cluster])) := by
  have opened : (ask (.connect cluster)).run.run (environment rules) world =
      (.ok (), world.served world.server [.connect cluster]) := by
    rw [run_ask_of_calm calm]
    dsimp only [answer]
    split
    · rcases connects ‹_› with ⟨url, reachable⟩
      rw [reachable]
      rfl
    · rfl
  let used := world.served server (.connect cluster :: asked)
  have stillCalm : used.faults = [] := calm
  have closed : (tell (.close cluster)).run (environment rules) used =
      ((), world.served server (.connect cluster :: asked ++ [.close cluster])) := by
    have asks : (tell (.close cluster)).run (environment rules) used =
        ((), ((environment rules).call (.close cluster) used).2) :=
      rfl
    rw [asks, call_of_calm stillCalm]
    simp [answer, logged, served, used]
  unfold withConnection
  rw [run_run_bind, opened]
  dsimp only
  rw [run_run_bind, run_run_attempt, uses, served_served]
  dsimp only [List.singleton_append]
  rw [run_run_bind, run_run_lift, closed]
  exact run_run_result _ result _

/-- A request that is made only where it has an effect. -/
theorem run_optional_of_calm {wanted : Prop} [Decidable wanted] {request : ServerRequest}
    {answer : request.Answer} {after : Fallible β} (calm : world.faults = [])
    (registered : world.server.get? name = some present)
    (answers : world.server.answer request = (.ok answer, world.server.insert name next))
    (idle : ¬ wanted → next = present) :
    (if wanted then askServer cluster request >>= fun _ => after
      else after).run.run (environment rules) world =
      after.run.run (environment rules)
        (world.served (world.server.insert name next)
          (if wanted then [.server cluster request] else [])) := by
  split
  · rw [run_run_bind, run_askServer_of_calm calm, answers]
  · rw [idle ‹¬wanted›, SortedMap.insert_get? registered]
    rfl

/-- The attributes are listed, and the plan for them is carried out. -/
theorem run_convergeAttributes_of_calm (calm : world.faults = [])
    (registered : world.server.get? name = some present)
    (agrees : AttributePlan.Agrees spec present)
    (named : AttributePlan.namedTypes spec = .ok wanted) :
    (convergeAttributes cluster name spec).run.run (environment rules) world =
      (.ok (.between wanted present),
        world.served (world.server.insert name wanted)
          (.server cluster (.listAttributes name) ::
            (AttributePlan.between wanted present).requests cluster name)) := by
  let plan := AttributePlan.between wanted present
  let filtered := present.filter fun held _ => held ∉ plan.removals
  have isPlan : AttributePlan.make spec present = .ok plan :=
    AttributePlan.make_of_agrees agrees named
  have carried : filtered.overlay plan.additions = wanted :=
    AttributePlan.applied_of_agrees agrees named
  let listed := world.served world.server [.server cluster (.listAttributes name)]
  let removals : List Request :=
    if plan.removals ≠ [] then [.server cluster (.removeAttributes name plan.removals)] else []
  let cleared := listed.served (world.server.insert name filtered) removals
  have listedCalm : listed.faults = [] := calm
  have clearedCalm : cleared.faults = [] := calm
  have held : listed.server.get? name = some present := registered
  have left : cleared.server.get? name = some filtered := SortedMap.get?_insert_self ..
  unfold convergeAttributes
  rw [run_run_bind, run_askServer_of_calm calm, Server.answer_listAttributes registered]
  dsimp only
  rw [run_run_bind, run_run_result, isPlan]
  dsimp only
  refine (run_optional_of_calm listedCalm held
    (Server.answer_removeAttributes held plan.removals)
    fun none => AttributePlan.filter_of_none none present).trans ?_
  refine (run_optional_of_calm clearedCalm left
    (Server.answer_addAttributes left plan.additions)
    fun none => AttributePlan.overlay_of_none none filtered).trans ?_
  have whole : cleared.server.insert name (filtered.overlay plan.additions) =
      world.server.insert name wanted := by
    rw [carried]
    exact SortedMap.insert_insert ..
  rw [whole, served_served, served_served]
  rfl

/-- A namespace is registered, or updated, and then its attributes follow. -/
theorem run_register_of_calm {ns : Namespace} (calm : world.faults = [])
    (agrees : AttributePlan.Agrees ns.spec.searchAttributes
      ((world.server.get? ns.name).getD ∅))
    (named : AttributePlan.namedTypes ns.spec.searchAttributes = .ok wanted) :
    (register cluster ns).run.run (environment rules) world =
      (.ok (), world.served (world.server.insert ns.name wanted)
        (.server cluster (.register (.of cluster ns)) ::
          (if world.server.contains ns.name then [.server cluster (.update (.of cluster ns))]
            else []) ++
          .server cluster (.listAttributes ns.name) ::
            (AttributePlan.between wanted ((world.server.get? ns.name).getD ∅)).requests cluster
              ns.name)) := by
  let request := NamespaceRequest.of cluster ns
  have attributes {known : World} {present : StringMap AttributeType} (calm : known.faults = [])
      (held : known.server.get? ns.name = some present)
      (agrees : AttributePlan.Agrees ns.spec.searchAttributes present) :
      (discard <| convergeAttributes cluster ns.name ns.spec.searchAttributes :
        Fallible Unit).run.run (environment rules) known =
        (.ok (), known.served (known.server.insert ns.name wanted)
          (.server cluster (.listAttributes ns.name) ::
            (AttributePlan.between wanted present).requests cluster ns.name)) := by
    refine (run_run_bind _ _ _ _).trans ?_
    rw [run_convergeAttributes_of_calm calm held agrees named]
    rfl
  unfold register
  dsimp only
  rw [run_run_bind, run_run_attempt, run_askServer_of_calm calm]
  cases known : world.server.get? ns.name with
  | none =>
      have fresh : world.server.answer (.register request) =
          (.ok (), world.server.insert ns.name ∅) := by
        simp [Server.answer, SortedMap.contains, known, request, NamespaceRequest.of]
      let later :=
        world.served (world.server.insert ns.name ∅) [.server cluster (.register request)]
      have laterCalm : later.faults = [] := calm
      have held : later.server.get? ns.name = some ∅ := SortedMap.get?_insert_self ..
      rw [known] at agrees
      rw [fresh]
      refine (attributes laterCalm held agrees).trans ?_
      rw [served_served, server_served, SortedMap.insert_insert]
      simp [SortedMap.contains, known, request]
  | some present =>
      have taken : world.server.answer (.register request) =
          (.error ((ServerRequest.register request).failure .alreadyExists "taken"),
            world.server) := by
        simp [Server.answer, SortedMap.contains, known, request, NamespaceRequest.of]
      let later := world.served world.server [.server cluster (.register request)]
      have laterCalm : later.faults = [] := calm
      have updates : later.server.answer (.update request) = (.ok (), later.server) := by
        simp [later, Server.answer, Server.withTarget, ServerRequest.target, known, request,
          NamespaceRequest.of]
      let last := later.served later.server [.server cluster (.update request)]
      have lastCalm : last.faults = [] := calm
      rw [known] at agrees
      rw [taken]
      refine (run_run_bind _ (askServer cluster (.update request)) (fun _ =>
        discard <| convergeAttributes cluster ns.name ns.spec.searchAttributes) later).trans ?_
      rw [run_askServer_of_calm laterCalm, updates]
      refine (attributes lastCalm known agrees).trans ?_
      rw [served_served, served_served]
      simp [SortedMap.contains, known, request, last, later]

/-- What a pass asks a server that knows a namespace, or does not. -/
def requestsOf (cluster : Cluster) (ns : Namespace) (known : Bool) (plan : AttributePlan) :
    List Request :=
  .connect cluster ::
    (.server cluster (.register (.of cluster ns)) ::
      (if known then [.server cluster (.update (.of cluster ns))] else []) ++
      .server cluster (.listAttributes ns.name) :: plan.requests cluster ns.name) ++
    [.close cluster]

variable {ns : Namespace} {settings : Settings} {now : Instant} {key : ObjectKey}

/-- The part of a pass that is under the deadline, over a namespace that is to be registered. -/
theorem run_namespaceBody_of_calm (calm : world.faults = [])
    (alive : ns.metadata.isDeleting = false)
    (found : world.store.clusters.get? ns.clusterKey = some cluster) (ready : cluster.isReady)
    (connects : rules.checksAddress → ∃ url, cluster.frontendUrl = .ok url)
    (agrees : AttributePlan.Agrees ns.spec.searchAttributes
      ((world.server.get? ns.name).getD ∅))
    (named : AttributePlan.namedTypes ns.spec.searchAttributes = .ok wanted) :
    (namespaceBody settings now key ns).run (environment rules) world =
      ((ns.alignFinalizer.mapConditions fun conditions =>
          (Condition.set (Namespace.readyCondition now) conditions).1, .ok .success),
        (world.logged (.store (.getCluster ns.clusterKey))).served
          (world.server.insert ns.name wanted)
          (requestsOf cluster ns (world.server.contains ns.name)
            (.between wanted ((world.server.get? ns.name).getD ∅)))) := by
  let read := world.logged (.store (.getCluster ns.clusterKey))
  have readCalm : read.faults = [] := calm
  let opened := read.served read.server [.connect cluster]
  have openedCalm : opened.faults = [] := calm
  have tasked : (askStore (.getCluster ns.clusterKey) >>= fun cluster =>
      (liftM (ns.task cluster) : Fallible Namespace.Task)).run.run (environment rules) world =
        (.ok (.converge cluster), read) := by
    rw [run_run_bind, run_askStore_of_calm calm]
    dsimp only [Store.answer]
    rw [found]
    refine (run_run_result _ _ _).trans ?_
    simp [Namespace.task, ready, alive]
    rfl
  have registers : (withConnection cluster (register cluster ns.alignFinalizer)).run.run
      (environment rules) read = (.ok (), read.served (world.server.insert ns.name wanted)
        (requestsOf cluster ns (world.server.contains ns.name)
          (.between wanted ((world.server.get? ns.name).getD ∅)))) := by
    rcases Namespace.frame_alignFinalizer ns with ⟨spec, _, request⟩
    have name := Namespace.name_alignFinalizer ns
    refine run_withConnection_of_calm readCalm connects ?_
    have registered : (register cluster ns.alignFinalizer).run.run (environment rules) opened = _ :=
      run_register_of_calm openedCalm (by rw [spec, name]; exact agrees) (by rw [spec]; exact named)
    rw [name, request] at registered
    exact registered
  unfold namespaceBody
  refine (run_bind _ _ _ _).trans ?_
  rw [run_limit_of_calm calm, tasked]
  dsimp only
  refine (run_bind _ _ _ _).trans ?_
  rw [run_limit_of_calm readCalm, registers]
  rfl

/-- A pass over a namespace that is to be registered. It writes what it changes of the object. -/
theorem run_reconcileNamespace_of_calm (calm : world.faults = [])
    (there : world.store.namespaces.get? key = some ns) (alive : ns.metadata.isDeleting = false)
    (found : world.store.clusters.get? ns.clusterKey = some cluster) (ready : cluster.isReady)
    (connects : rules.checksAddress → ∃ url, cluster.frontendUrl = .ok url)
    (agrees : AttributePlan.Agrees ns.spec.searchAttributes
      ((world.server.get? ns.name).getD ∅))
    (named : AttributePlan.namedTypes ns.spec.searchAttributes = .ok wanted) :
    let patch := ObjectPatch.between ns (ns.settled now)
    ∃ operator,
      world.run rules (reconcileNamespace settings now key).run =
        (.ok .awaitChange,
          { world with
            store := if patch.isEmpty then world.store else (world.store.patchNamespace key patch).2
            server := world.server.insert ns.name wanted
            operator
            log :=
              (if patch.isEmpty then [] else [.store (.patchNamespace key patch)]) ++
                ((requestsOf cluster ns (world.server.contains ns.name)
                  (.between wanted ((world.server.get? ns.name).getD ∅))).reverse ++
                [.store (.getCluster ns.clusterKey), .store (.getNamespace key)])
            elapsed := 0 }) := by
  intro patch
  let start : World := { world with log := [], elapsed := 0 }
  let read : World :=
    { start.logged (.store (.getNamespace key)) with operator := world.operator.take (.listed ns) }
  have startCalm : start.faults = [] := calm
  have readCalm : read.faults = [] := calm
  have body : (namespaceBody settings now key ns).run (environment rules) read = _ :=
    run_namespaceBody_of_calm readCalm alive found ready connects agrees named
  have noted : (write (.listed ns)).run (environment rules)
      { start with store := start.store, log := .store (.getNamespace key) :: start.log } =
        ((), read) :=
    rfl
  unfold World.run reconcileNamespace
  rw [run_run_bind, run_askStore_of_calm startCalm]
  dsimp only [Store.answer]
  rw [there]
  dsimp only
  rw [run_run_bind, run_run_lift, noted]
  dsimp only
  rw [run_run_bind, run_run_lift, body]
  dsimp only
  have same : ObjectPatch.between ns (Resource.record now (.ok .success)
      (ns.alignFinalizer.mapConditions fun conditions =>
        (Condition.set (Namespace.readyCondition now) conditions).1)) = patch :=
    rfl
  rw [same]
  cases empty : patch.isEmpty with
  | true =>
      exact ⟨_, rfl⟩
  | false =>
      have accepted : (world.store.patchNamespace key patch).1 = .ok () :=
        (Store.patchNamespace_of_current there rfl).1
      have stored (left : World) (calm : left.faults = []) (same : left.store = world.store) :
          (askStore (.patchNamespace key patch)).run.run (environment rules) left =
            (.ok (), { left with
              store := (world.store.patchNamespace key patch).2
              log := .store (.patchNamespace key patch) :: left.log }) := by
        rw [run_askStore_of_calm calm, same, ← accepted]
        rfl
      rw [if_neg Bool.false_ne_true, run_run_bind, run_run_attempt, stored]
      · exact ⟨_, rfl⟩
      · exact calm
      · rfl

/-- A namespace is not being deleted, its cluster is ready and can be reached, and the spec agrees
with the attributes that the server has for it, if it knows it. Then a pass that nothing disturbs
ends well, with the object reported ready and its finalizer as the spec has it, and with the
namespace registered with exactly the attributes of the spec. The pass after it asks for the same
once more, but changes neither the store nor the attributes. -/
theorem in_sync_of_no_faults (calm : world.faults = [])
    (there : world.store.namespaces.get? key = some ns) (alive : ns.metadata.isDeleting = false)
    (found : world.store.clusters.get? ns.clusterKey = some cluster) (ready : cluster.isReady)
    (connects : rules.checksAddress → ∃ url, cluster.frontendUrl = .ok url)
    (agrees : AttributePlan.Agrees ns.spec.searchAttributes
      ((world.server.get? ns.name).getD ∅)) :
    ∃ wanted stored later,
      AttributePlan.namedTypes ns.spec.searchAttributes = .ok wanted ∧
      world.run rules (reconcileNamespace settings now key).run = (.ok .awaitChange, later) ∧
      later.store.namespaces.get? key = some stored ∧ ns.Settled stored ∧
      later.server = world.server.insert ns.name wanted ∧
      ∀ settings now, ∃ last,
        later.run rules (reconcileNamespace settings now key).run = (.ok .awaitChange, last) ∧
        last.store = later.store ∧ last.server = later.server ∧
        last.log.reverse =
          [.store (.getNamespace key), .store (.getCluster ns.clusterKey), .connect cluster,
            .server cluster (.register (.of cluster ns)),
            .server cluster (.update (.of cluster ns)),
            .server cluster (.listAttributes ns.name), .close cluster] := by
  rcases AttributePlan.namedTypes_of_supported agrees.supported with ⟨wanted, named⟩
  rcases Namespace.exists_settled there alive with
    ⟨stored, holds, settled, status, stillAlive, clusterKey, request⟩
  rcases run_reconcileNamespace_of_calm calm there alive found ready connects agrees named with
    ⟨operator, passed⟩
  refine ⟨wanted, stored, _, named, passed, holds, settled, rfl, ?_⟩
  intro settings later
  let patch := ObjectPatch.between ns (ns.settled now)
  let reached : World :=
    { world with
      store := if patch.isEmpty then world.store else (world.store.patchNamespace key patch).2
      server := world.server.insert ns.name wanted
      operator }
  have reachedCalm : reached.faults = [] := calm
  have name : stored.name = ns.name := congrArg NamespaceRequest.name (request cluster)
  have known : reached.server.get? stored.name = some wanted := by
    rw [name]
    exact SortedMap.get?_insert_self ..
  have clusters : reached.store.clusters.get? stored.clusterKey = some cluster := by
    rw [clusterKey, ← found]
    dsimp only [reached]
    split
    · rfl
    · rw [Store.clusters_patchNamespace]
  have stillNamed : AttributePlan.namedTypes stored.spec.searchAttributes = .ok wanted := by
    rw [settled.spec]
    exact named
  have stillAgrees : AttributePlan.Agrees stored.spec.searchAttributes
      ((reached.server.get? stored.name).getD ∅) := by
    rw [known]
    exact AttributePlan.agrees_self stillNamed
  rcases run_reconcileNamespace_of_calm reachedCalm holds stillAlive clusters ready connects
    stillAgrees stillNamed with ⟨last, again⟩
  have unpatched : (ObjectPatch.between stored (stored.settled later)).isEmpty :=
    Namespace.isEmpty_between_settled settled status
  refine ⟨_, again, ?_, ?_, ?_⟩
  · exact if_pos unpatched
  · exact SortedMap.insert_get? known
  · have nothing : AttributePlan.requests { removals := [], additions := ∅ } cluster ns.name =
        [] :=
      rfl
    dsimp only
    rw [if_pos unpatched, known, SortedMap.contains, known, Option.getD_some,
      AttributePlan.between_self, clusterKey]
    simp [requestsOf, request, name, nothing]

end World

/-- A namespace with a finalizer of somebody else, after a pass that failed. -/
def Namespace.stuck : Namespace :=
  { payments with
    metadata := { payments.metadata with finalizers := some ["backup"] }
    spec := { payments.spec with searchAttributes := .ofList [("Tier", "Keyword")] }
    status := some { conditions := Condition.markError "ReconcileError" "unavailable" default [] } }

/-- A cluster that is ready, with a complete spec. -/
def Cluster.serving : Cluster := { Cluster.prod with spec := Cluster.prod.spec.withDefaults }

/-- A server that knows the namespace with another attribute. -/
def World.outdated : World where
  store :=
    { clusters := .ofList [(Cluster.serving.key, .serving)]
      namespaces := .ofList [(Namespace.stuck.key, .stuck)] }
  server := .ofList [("payments", .ofList [("Region", .text)])]

theorem World.in_sync_of_outdated :
    ∃ stored later,
      outdated.run { settings := {}, checksAddress := true }
        (Program.reconcileNamespace {} default Namespace.stuck.key).run =
          (.ok .awaitChange, later) ∧
      later.store.namespaces.get? Namespace.stuck.key = some stored ∧
      stored.hasFinalizer = true ∧ stored.otherFinalizers = ["backup"] ∧
      later.server.get? "payments" = some (.ofList [("Tier", .keyword)]) := by
  have there : outdated.store.namespaces.get? Namespace.stuck.key = some .stuck := rfl
  have found : outdated.store.clusters.get? Namespace.stuck.clusterKey = some .serving := rfl
  have ready : Cluster.serving.isReady := rfl
  have reachable : ∃ url, Cluster.serving.frontendUrl = .ok url := ⟨_, rfl⟩
  have agrees : AttributePlan.Agrees Namespace.stuck.spec.searchAttributes
      ((outdated.server.get? Namespace.stuck.name).getD ∅) :=
    AttributePlan.agrees_of_make rfl
  rcases in_sync_of_no_faults rfl there rfl found ready (fun _ => reachable) agrees with
    ⟨wanted, stored, later, named, passed, holds, settled, served, _⟩
  refine ⟨stored, later, passed, holds, settled.finalizer, settled.others, ?_⟩
  have isWanted : AttributePlan.namedTypes Namespace.stuck.spec.searchAttributes =
      .ok (.ofList [("Tier", .keyword)]) :=
    rfl
  rw [isWanted] at named
  cases named
  rw [served]
  exact SortedMap.get?_insert_self ..

end ClusterOperator
