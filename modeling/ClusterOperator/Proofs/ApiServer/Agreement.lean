import ClusterOperator.Proofs.ApiServer.Patch
import ClusterOperator.Proofs.Run.Schedule

/-!
# The API server and the store in memory

Whatever a patch does to a namespace in memory, it does to the document on the API server. Others may
write to an object before a patch and between its two calls.
-/

namespace ClusterOperator.ApiServer

/-! ### Patches among other writers

Whatever others do before a patch and between its two calls, no call changes anything but the version
that was read, or the one that the answer to the first call shows.
-/

variable {σ : Type} {server : ApiServer σ} {key : ObjectKey} {view : σ → Option Json}
  {patch : ObjectPatch NamespaceStatus} {version : String}

/-- What a call found in the place of an object, what it was answered, and what it left there. -/
structure Visit where
  found : Option Json
  answer : Except ApiFailure Json
  left : Option Json

/-- The answer to the call is a namespace in a version. -/
def Visit.Shows (visit : Visit) (version : Option String) : Prop :=
  ∃ document held, visit.answer = .ok document ∧ Namespace.ofJson? document = some held ∧
    held.metadata.resourceVersion = version

/-- A server whose objects others write, too. -/
structure Crowd (σ : Type) where
  state : σ
  /-- What others do before each of the next calls. -/
  others : List (σ → σ)
  visits : List Visit

/-- The server with others, who take their turn before each call. -/
def crowded (server : ApiServer σ) (view : σ → Option Json) : ApiServer (Crowd σ) :=
  fun call crowd =>
    let state := crowd.others.headD id crowd.state
    let (answer, later) := server call state
    (answer, ⟨later, crowd.others.tail, crowd.visits ++ [⟨view state, answer, view later⟩]⟩)

/-- A visit that changed something found the version. -/
def Visit.Replaces (visit : Visit) (version : Option String) : Prop :=
  visit.left ≠ visit.found →
    ∃ document, visit.found = some document ∧ document.version? = version

/-- No visit replaces anything but the version that was read or, after a visit of one's own, the one
that its answer shows. -/
inductive Careful (version : Option String) : List Visit → Prop where
  | silent : Careful version []
  | single {visit : Visit} (replaces : visit.Replaces version) : Careful version [visit]
  | double {own next : Visit} {shown : Option String} (first : own.Replaces version)
      (shows : own.Shows shown) (second : next.Replaces shown) :
      Careful version [own, next]

/-- Whatever the others do, a patch changes nothing but the version that it names. -/
theorem Guards.visit (guards : server.Guards key view) (part : ObjectPart) {changes : Json}
    {named : Option String} (crowd : Crowd σ) (names : changes.version? = named) :
    ∃ visit later, server.crowded view (.patch .ns key part changes) crowd = (visit.answer, later) ∧
      later.visits = crowd.visits ++ [visit] ∧ visit.Replaces named := by
  let before := crowd.others.headD id crowd.state
  let answer := server (.patch .ns key part changes) before
  refine ⟨⟨view before, answer.1, view answer.2⟩, ⟨answer.2, crowd.others.tail, _⟩, rfl, rfl, ?_⟩
  intro changed
  refine Classical.byContradiction fun other => changed ?_
  refine guards part changes _ fun document there same => other ⟨document, there, ?_⟩
  exact same.trans names

/-- With others around, a patch of the status is at most one visit, and replaces nothing but the
version that it is bound to. -/
theorem Guards.patchStatus_crowded (guards : server.Guards key view)
    (patch : ObjectPatch NamespaceStatus) (expected : Option String) (crowd : Crowd σ) :
    let later := ((server.crowded view).patchStatus Namespace.ofJson? NamespaceStatus.toJson .ns key
      patch expected crowd).2
    later.visits = crowd.visits ∨
      ∃ visit : Visit, later.visits = crowd.visits ++ [visit] ∧
        visit.Replaces expected := by
  dsimp only [patchStatus]
  cases isStatus : patch.statusMergePatch NamespaceStatus.toJson expected with
  | none => exact .inl rfl
  | some changes =>
      rcases guards.visit .status crowd (version?_of_statusMergePatch isStatus) with
        ⟨⟨found, answer, left⟩, later, answered, visits, replaces⟩
      refine .inr ⟨_, ?_, replaces⟩
      dsimp only [bind, StateT.bind, fetch]
      rw [answered]
      cases answer with
      | error failure => exact visits
      | ok document =>
          dsimp only
          cases Namespace.ofJson? document with
          | none => exact visits
          | some held => exact visits

/-- With others around, a patch is careful. -/
theorem Guards.patchObject_crowded (guards : server.Guards key view)
    (bound : patch.resourceVersion = some version) (state : σ) (others : List (σ → σ)) :
    Careful (some version)
      ((server.crowded view).patchObject Namespace.ofJson? NamespaceStatus.toJson .ns key patch
        ⟨state, others, []⟩).2.visits := by
  dsimp only [patchObject, patchMetadata, bind, StateT.bind]
  cases isMain : patch.metadataMergePatch with
  | none =>
      dsimp only [pure, StateT.pure]
      rcases guards.patchStatus_crowded patch patch.resourceVersion ⟨state, others, []⟩ with
        silent | ⟨visit, single, replaces⟩
      · rw [silent]
        exact .silent
      · rw [single]
        rw [bound] at replaces
        exact .single replaces
  | some changes =>
      have names := version?_of_metadataMergePatch isMain
      rw [bound] at names
      have first (visit : Visit) {visits : List Visit} (are : visits = [] ++ [visit])
          (replaces : visit.Replaces (some version)) : Careful (some version) visits := by
        rw [are]
        exact .single replaces
      rcases guards.visit .main ⟨state, others, []⟩ names with
        ⟨⟨found, answer, left⟩, middle, answered, visits, replaces⟩
      dsimp only [writeObject, bind, StateT.bind, fetch]
      rw [answered]
      cases answer with
      | error failure => exact first _ visits replaces
      | ok document =>
          dsimp only
          cases isRead : Namespace.ofJson? document with
          | none => exact first _ visits replaces
          | some held =>
              have shows : Visit.Shows ⟨found, .ok document, left⟩ held.metadata.resourceVersion :=
                ⟨document, held, rfl, isRead, rfl⟩
              rcases guards.patchStatus_crowded patch held.metadata.resourceVersion middle with
                silent | ⟨next, more, following⟩
              · exact first _ (silent.trans visits) replaces
              · have both (own : Visit) {visits : List Visit} (are : visits = [] ++ [own] ++ [next])
                    (first : own.Replaces (some version))
                    (shows : own.Shows held.metadata.resourceVersion) :
                    Careful (some version) visits := by
                  rw [are]
                  exact .double first shows following
                exact both _ (more.trans (congrArg (· ++ [next]) visits)) replaces shows

end ClusterOperator.ApiServer

/-! ### The store in memory -/

namespace ClusterOperator

open Json

variable {σ : Type}

namespace ApiServer

variable {server : ApiServer σ} {key : ObjectKey} {view : σ → Option Json}
  {patch : ObjectPatch NamespaceStatus} {version : String}

/-- The API server and the store in memory patch a namespace in the same way. Where both have it in
the version that the patch is bound to, they make the same of it. A patch that is bound to another
version is a conflict for both. Of a namespace that neither has, the API server does not miss the
status. A patch of nothing is not sent. However others write to the server, before a patch and
between its two calls, each call replaces nothing but the version that was read or the one that
the own call before it has left. -/
theorem Patches.patchNamespace_like_store (patches : server.Patches key view) (store : Store)
    (state : σ) (bound : patch.resourceVersion = some version) :
    let sent := server.answer (.patchNamespace key patch) state
    let stored := store.answer (.patchNamespace key patch)
    (patch.isEmpty = false →
      (∀ held document, store.namespaces.get? key = some held → view state = some document →
        Namespace.IsDocument document held →
          (held.metadata.resourceVersion = some version →
            patch.Expressible held →
              sent.1 = .ok () ∧ stored.1 = .ok () ∧
                Namespace.Shown (view sent.2) (stored.2.namespaces.get? key)) ∧
          (held.metadata.resourceVersion ≠ some version →
            (∃ message, sent.1 = .error (.conflict key.text message)) ∧
              (∃ message, stored.1 = .error (.conflict key.text message)) ∧
              view sent.2 = some document ∧ stored.2.namespaces.get? key = some held)) ∧
      (store.namespaces.get? key = none → view state = none →
        (sent.1 = .ok () ↔ patch.finalizers = none) ∧
          (∃ message, stored.1 = .error (.conflict key.text message)) ∧
          view sent.2 = none ∧ stored.2.namespaces.get? key = none)) ∧
    (patch.isEmpty = true → sent = (.ok (), state)) ∧
    ∀ others, Careful (some version)
      ((server.crowded view).answer (.patchNamespace key patch) ⟨state, others, []⟩).2.visits := by
  dsimp only [answer, Store.answer]
  have refused (outdated : ∀ held, store.namespaces.get? key = some held →
      held.metadata.resourceVersion ≠ some version) :
      (∃ message, (store.patchNamespace key patch).1 = .error (.conflict key.text message)) ∧
        (store.patchNamespace key patch).2.namespaces.get? key = store.namespaces.get? key := by
    rcases store.patchNamespace_of_outdated bound outdated with ⟨message, refused⟩
    rw [refused]
    exact ⟨⟨message, rfl⟩, rfl⟩
  refine ⟨fun effective => ⟨?_, ?_⟩, ?_, ?_⟩
  · intro held document there shown isDocument
    refine ⟨?_, ?_⟩
    · intro isCurrent expressible
      rcases patches.patchObject_of_current shown isDocument isCurrent bound effective expressible
        store.advance with ⟨later, sent, same⟩
      rcases store.patchNamespace_of_current there (bound.trans isCurrent.symm) with
        ⟨stored, patched⟩
      rw [sent, patched]
      exact ⟨rfl, stored, same⟩
    · intro outdated
      have other : document.version? ≠ some version := by
        rw [isDocument.version?_eq]
        exact outdated
      rcases patches.patchObject_of_outdated shown other bound effective with
        ⟨message, later, sent, kept⟩
      have otherStored : ∀ held, store.namespaces.get? key = some held →
          held.metadata.resourceVersion ≠ some version := by
        rw [there]
        rintro _ ⟨⟩
        exact outdated
      rcases refused otherStored with ⟨stored, same⟩
      rw [sent]
      exact ⟨⟨message, rfl⟩, stored, kept, same.trans there⟩
  · intro absent gone
    rcases patches.patchObject_of_absent patch gone with ⟨result, later, sent, missed, gone⟩
    have noneStored : ∀ held, store.namespaces.get? key = some held →
        held.metadata.resourceVersion ≠ some version := by
      rw [absent]
      rintro _ ⟨⟩
    rcases refused noneStored with ⟨stored, same⟩
    rw [sent]
    exact ⟨missed, stored, gone, same.trans absent⟩
  · intro isEmpty
    rcases Bool.and_eq_true_iff.mp isEmpty with ⟨finalizers, status⟩
    dsimp only [patchObject, patchMetadata, bind, StateT.bind]
    rw [ObjectPatch.metadataMergePatch, Option.isNone_iff_eq_none.mp finalizers]
    dsimp only [Option.map_none, pure, StateT.pure, patchStatus]
    rw [ObjectPatch.statusMergePatch, Option.isNone_iff_eq_none.mp status]
    rfl
  · intro others
    exact patches.guards.patchObject_crowded bound state others

/-- A server for one object. Versions grow with every write. -/
def keeper : ApiServer (Option Json) := fun call kept =>
  match call, kept with
  | .patch _ _ _ changes, some document =>
      if document.version? = changes.version? then
        let version := document.version?.getD "" ++ "0"
        let written := (document.mergePatch changes).mergePatch (versionPatch version)
        (.ok written, if written.isReleased then none else some written)
      else (.error (.refused "Failure" "the object has been modified" "Conflict" 409), kept)
  | _, some document => (.ok document, kept)
  | _, none => (.error (.refused "Failure" "not found" "NotFound" 404), none)

theorem patches_keeper (key : ObjectKey) : keeper.Patches key id where
  absent part changes state gone := by
    subst gone
    exact ⟨_, _, _, none, rfl, rfl⟩
  outdated part changes document state there other := by
    subst there
    exact ⟨_, _, _, some document, if_neg other, rfl⟩
  current part changes document state there same := by
    subst there
    refine ⟨document.version?.getD "" ++ "0", _, ?_, if_pos same, rfl⟩
    intro grown
    have longer := congrArg (fun version : Option String => (version.getD "").length) grown
    simp at longer

end ApiServer

/-- A namespace that is going, in its first version. -/
def Namespace.departing : Namespace :=
  { payments with
    metadata :=
      { payments.metadata with
        resourceVersion := some "1"
        finalizers := some [deletionFinalizer]
        deletionTimestamp := some default } }

def Namespace.departingDocument : Json :=
  .object
    [("metadata", .object
      [("name", .string "payments"), ("namespace", .string "apps"),
        ("resourceVersion", .string "1"), ("finalizers", ofTextList [deletionFinalizer]),
        ("deletionTimestamp", .string "1970-01-01T00:00:00Z")]),
      ("spec", .object
        [("clusterRef", .object [("name", .string "prod")]), ("allowDeletion", .bool true)])]

theorem Namespace.isDocument_departing : IsDocument departingDocument departing where
  plain :=
    { isObject := rfl
      distinct := by decide
      metadata := ⟨_, rfl, by decide⟩
      status := nofun }
  isRead := rfl

/-- Removing the last finalizer and setting a status at once. -/
def ObjectPatch.farewell : ObjectPatch NamespaceStatus where
  resourceVersion := some "1"
  finalizers := some []
  status := some
    { conditions :=
        [{ type := Condition.readyType, status := .fails, reason := "Deleted", message := "",
           since := default }] }

def Store.departing : Store := { namespaces := .ofList [(Namespace.payments.key, .departing)] }

theorem ApiServer.patchNamespace_like_store_departing :
    let request : StoreRequest := .patchNamespace Namespace.payments.key .farewell
    let sent := ApiServer.keeper.answer request (some Namespace.departingDocument)
    let stored := Store.departing.answer request
    sent.1 = .ok () ∧ stored.1 = .ok () ∧
      Namespace.Shown sent.2 (stored.2.namespaces.get? Namespace.payments.key) := by
  have representable : (default : Instant).Representable := ⟨by decide, .inl (by decide)⟩
  have bound : ObjectPatch.farewell.resourceVersion = some "1" := rfl
  have like := (ApiServer.patches_keeper Namespace.payments.key).patchNamespace_like_store
    .departing (some Namespace.departingDocument) bound
  refine ((like.1 rfl).1 .departing Namespace.departingDocument rfl rfl
    Namespace.isDocument_departing).1 rfl ?_
  rintro status ⟨⟩
  refine ⟨?_, nofun⟩
  rintro condition (_ | ⟨_, ⟨⟩⟩)
  exact representable

/-- A namespace of which something was reported. -/
def Namespace.reported : Namespace :=
  { payments with
    metadata := { payments.metadata with resourceVersion := some "1" }
    status := ObjectPatch.farewell.status }

def Namespace.reportedDocument : Json :=
  .object
    [("metadata", .object
      [("name", .string "payments"), ("namespace", .string "apps"),
        ("resourceVersion", .string "1")]),
      ("spec", .object
        [("clusterRef", .object [("name", .string "prod")]), ("allowDeletion", .bool true)]),
      ("status", .object
        [("conditions", .array
          [.object
            [("type", .string "Ready"), ("status", .string "False"),
              ("reason", .string "Deleted"), ("message", .string ""),
              ("lastTransitionTime", .string "1970-01-01T00:00:00Z")]])])]

theorem Namespace.isDocument_reported : IsDocument reportedDocument reported where
  plain :=
    { isObject := rfl
      distinct := by decide
      metadata := ⟨_, rfl, by decide⟩
      status := by
        rintro status ⟨⟩
        decide }
  isRead := rfl

def Store.reported : Store := { namespaces := .ofList [(Namespace.payments.key, .reported)] }

/-- A patch of nothing, for a version that is gone. -/
def ObjectPatch.nothing : ObjectPatch NamespaceStatus := ⟨some "0", none, none⟩

/-- A patch that takes all conditions away. -/
def ObjectPatch.silence : ObjectPatch NamespaceStatus := ⟨some "1", none, some { conditions := [] }⟩

/-- The API server is not asked whether a patch of nothing is outdated, and it keeps the conditions
that a status leaves out. -/
theorem ApiServer.keeper_unlike_store :
    ApiServer.keeper.Patches Namespace.payments.key id ∧
      Namespace.IsDocument Namespace.reportedDocument .reported ∧
      Store.reported.namespaces.get? Namespace.payments.key = some .reported ∧
      ((ApiServer.keeper.answer (.patchNamespace Namespace.payments.key .nothing)
          (some Namespace.reportedDocument)).1 = .ok () ∧
        (Store.reported.answer (.patchNamespace Namespace.payments.key .nothing)).1 =
          .error (.conflict "apps/payments" "resourceVersion 0 is stale, current is 1")) ∧
      ((((ApiServer.keeper.answer (.patchNamespace Namespace.payments.key .silence)
          (some Namespace.reportedDocument)).2.bind Namespace.ofJson?).bind Resource.status) =
            ObjectPatch.farewell.status ∧
        (((Store.reported.answer (.patchNamespace Namespace.payments.key
          .silence)).2.namespaces.get? Namespace.payments.key).bind Resource.status) =
            some { conditions := [] }) := by
  refine ⟨ApiServer.patches_keeper _, Namespace.isDocument_reported, rfl, ⟨rfl, rfl⟩, ⟨?_, rfl⟩⟩
  rfl

end ClusterOperator
