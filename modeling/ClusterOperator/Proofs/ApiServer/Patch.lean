import ClusterOperator.ApiServer.Store
import ClusterOperator.Proofs.Namespace.Document
import ClusterOperator.Proofs.Run.Conflict
import ClusterOperator.Proofs.Store.Patch

/-!
# Patches on the API server

A patch is one step for the store in memory, and up to two calls for an API server, the second of
which is bound to the version that the first one left. Where nobody else writes in between, the
calls make of the document what the step makes of the namespace.
-/

namespace ClusterOperator

open Json

variable {σ : Type}

/-- The namespace in another version. -/
def Namespace.inVersion (held : Namespace) (version : String) : Namespace :=
  { held with metadata := { held.metadata with resourceVersion := some version } }

/-- What is shown on the API server is the namespace, in whatever version, or neither is there. -/
inductive Namespace.Shown : Option Json → Option Namespace → Prop where
  | absent : Shown none none
  | present {document : Json} {held : Namespace} (version : String)
      (isDocument : IsDocument document (held.inVersion version)) :
      Shown (some document) (some held)

theorem Namespace.shown_patched {written : Json} {held after : Namespace} {version : String}
    {patch : ObjectPatch NamespaceStatus} {writer : Store}
    (isDocument : IsDocument written (after.inVersion version))
    (same : held.withPatch patch writer = after.inVersion writer.currentVersion) :
    Shown (if after.metadata.isReleased then none else some written)
      (held.patched patch writer) := by
  have released : (held.withPatch patch writer).metadata.isReleased =
      after.metadata.isReleased := by
    rw [same]
    rfl
  unfold Namespace.patched
  rw [released]
  split
  · exact .absent
  · rw [same]
    exact .present version isDocument

/-- A patch that is bound to another version than the one that is stored is a conflict. -/
theorem Store.patchNamespace_of_outdated {store : Store} {key : ObjectKey}
    {patch : ObjectPatch NamespaceStatus} {version : String}
    (bound : patch.resourceVersion = some version)
    (outdated : ∀ held, store.namespaces.get? key = some held →
      held.metadata.resourceVersion ≠ some version) :
    ∃ message, store.patchNamespace key patch =
      (.error (.conflict key.text message), store.advance) := by
  have same : store.advance.namespaces = store.namespaces := rfl
  rcases writable_of_outdated Resource.metadata key.text bound outdated with ⟨message, refused⟩
  refine ⟨message, ?_⟩
  dsimp only [patchNamespace]
  rw [same, refused]

/-- A merge patch says the status: its times are ones that a time stamp can be, and it has
conditions unless there were none before. -/
def ObjectPatch.Expressible (patch : ObjectPatch NamespaceStatus) (held : Namespace) : Prop :=
  ∀ status, patch.status = some status →
    (∀ condition ∈ status.conditions, condition.since.Representable) ∧
      (status.conditions = [] → ∀ earlier, held.status = some earlier → earlier.conditions = [])

namespace ApiServer

/-- A patch that names another version than the one that is kept changes nothing. -/
def Guards (server : ApiServer σ) (key : ObjectKey) (view : σ → Option Json) : Prop :=
  ∀ part changes state,
    (∀ document, view state = some document → document.version? ≠ changes.version?) →
      view (server (.patch .ns key part changes) state).2 = view state

/-- The server keeps the document of a namespace and merges patches into it that name its version.
Every write makes a new version and gives the document as it is then. What is being deleted and has
no finalizers goes. -/
structure Patches (server : ApiServer σ) (key : ObjectKey) (view : σ → Option Json) : Prop where
  absent (part : ObjectPart) (changes : Json) {state : σ} (gone : view state = none) :
    ∃ status message reason later, server (.patch .ns key part changes) state =
      (.error (.refused status message reason 404), later) ∧ view later = none
  outdated (part : ObjectPart) {changes document : Json} {state : σ}
    (there : view state = some document) (other : document.version? ≠ changes.version?) :
    ∃ status message reason later, server (.patch .ns key part changes) state =
      (.error (.refused status message reason 409), later) ∧ view later = some document
  current (part : ObjectPart) {changes document : Json} {state : σ}
    (there : view state = some document) (same : document.version? = changes.version?) :
    ∃ version later, document.version? ≠ some version ∧
      let written := (document.mergePatch changes).mergePatch (versionPatch version)
      server (.patch .ns key part changes) state = (.ok written, later) ∧
        view later = if written.isReleased then none else some written

variable {server : ApiServer σ} {key : ObjectKey} {view : σ → Option Json}

theorem Patches.guards (patches : server.Patches key view) : server.Guards key view := by
  intro part changes state other
  cases there : view state with
  | none =>
      rcases patches.absent part changes there with ⟨_, _, _, later, answered, gone⟩
      rw [answered]
      exact gone
  | some document =>
      rcases patches.outdated part there (other document there) with
        ⟨_, _, _, later, answered, kept⟩
      rw [answered]
      exact kept

/-! ### Single calls -/

section
variable {α : Type} {read : Json → Option α} {call : ApiCall} {state later : σ}

theorem fetch_of_error {failure : ApiFailure}
    (answered : server call state = (.error failure, later)) :
    server.fetch read call state = (.error failure, later) := by
  dsimp only [fetch, bind, StateT.bind]
  rw [answered]
  rfl

theorem fetch_of_ok {document : Json} {value : α}
    (answered : server call state = (.ok document, later)) (isRead : read document = some value) :
    server.fetch read call state = (.ok value, later) := by
  dsimp only [fetch, bind, StateT.bind]
  rw [answered]
  dsimp only
  rw [isRead]
  rfl

end

variable {document : Json} {held after : Namespace} {patch : ObjectPatch NamespaceStatus}
  {state : σ} {version : String}

/-- A patch that names the version of the kept document is merged into it. -/
theorem Patches.write (patches : server.Patches key view) (part : ObjectPart) {changes : Json}
    (there : view state = some document) (same : document.version? = changes.version?)
    (isDocument : Namespace.IsDocument (document.mergePatch changes) after) :
    ∃ version written later, server (.patch .ns key part changes) state = (.ok written, later) ∧
      Namespace.IsDocument written (after.inVersion version) ∧
      view later = if after.metadata.isReleased then none else some written := by
  rcases patches.current part there same with ⟨version, later, _, answered, left⟩
  have isWritten := isDocument.mergePatch_version version
  refine ⟨version, _, later, answered, isWritten, ?_⟩
  rw [left, isWritten.isReleased_eq]
  rfl

/-! ### The two calls -/

/-- The part of a patch for the metadata names the version that was read. -/
theorem version?_of_metadataMergePatch {changes : Json}
    (isPart : patch.metadataMergePatch = some changes) :
    changes.version? = patch.resourceVersion := by
  rcases Option.map_eq_some_iff.mp isPart with ⟨finalizers, _, rfl⟩
  cases patch.resourceVersion <;> rfl

/-- The part of a patch for the status names the version that it is bound to. -/
theorem version?_of_statusMergePatch {changes : Json} {expected : Option String}
    (isPart : patch.statusMergePatch NamespaceStatus.toJson expected = some changes) :
    changes.version? = expected := by
  rcases Option.map_eq_some_iff.mp isPart with ⟨status, _, rfl⟩
  cases expected <;> rfl

/-- A patch of the metadata that names the version of the kept document sets the finalizers. -/
theorem Patches.patchMetadata_of_current {finalizers : List String}
    (patches : server.Patches key view) (there : view state = some document)
    (isDocument : Namespace.IsDocument document held)
    (isCurrent : held.metadata.resourceVersion = some version)
    (bound : patch.resourceVersion = some version) (changed : patch.finalizers = some finalizers)
    (isAfter : after =
      { held with metadata := { held.metadata with finalizers := some finalizers } }) :
    ∃ version written later,
      server.patchMetadata Namespace.ofJson? .ns key patch state = (.ok (some version), later) ∧
        Namespace.IsDocument written (after.inVersion version) ∧
        view later = if after.metadata.isReleased then none else some written := by
  subst isAfter
  have isPart : patch.metadataMergePatch = some (.object [("metadata", .object
      [("resourceVersion", .string version), ("finalizers", ofTextList finalizers)])]) := by
    rw [ObjectPatch.metadataMergePatch, changed, bound]
    rfl
  have names := version?_of_metadataMergePatch isPart
  rw [bound] at names
  rcases patches.write .main there ((isDocument.version?_eq.trans isCurrent).trans names.symm)
    (isDocument.mergePatch_finalizers finalizers) with
      ⟨written, document, later, answered, isWritten, shown⟩
  refine ⟨written, document, later, ?_, isWritten, shown⟩
  dsimp only [patchMetadata]
  rw [isPart]
  dsimp only [writeObject, bind, StateT.bind]
  rw [fetch_of_ok answered isWritten.isRead]
  rfl

/-- A patch of the status that names the version of the kept document sets the status. -/
theorem Patches.patchStatus_of_current {status : NamespaceStatus}
    (patches : server.Patches key view) (there : view state = some document)
    (isDocument : Namespace.IsDocument document held)
    (isCurrent : held.metadata.resourceVersion = some version)
    (changed : patch.status = some status)
    (representable : ∀ condition ∈ status.conditions, condition.since.Representable)
    (kept : status.conditions = [] → ∀ earlier, held.status = some earlier →
      earlier.conditions = [])
    (isAfter : after = { held with status := some status }) :
    ∃ next written later,
      server.patchStatus Namespace.ofJson? NamespaceStatus.toJson .ns key patch (some version)
          state = (.ok (), later) ∧
        Namespace.IsDocument written (after.inVersion next) ∧
        view later = if after.metadata.isReleased then none else some written := by
  subst isAfter
  have isPart : patch.statusMergePatch NamespaceStatus.toJson (some version) = some (.object
      [("metadata", .object [("resourceVersion", .string version)]),
        ("status", status.toJson)]) := by
    rw [ObjectPatch.statusMergePatch, changed]
    rfl
  have names := version?_of_statusMergePatch isPart
  rcases patches.write .status there ((isDocument.version?_eq.trans isCurrent).trans names.symm)
    (isDocument.mergePatch_status representable kept) with
      ⟨written, document, later, answered, isWritten, shown⟩
  refine ⟨written, document, later, ?_, isWritten, shown⟩
  dsimp only [patchStatus]
  rw [isPart]
  dsimp only [bind, StateT.bind]
  rw [fetch_of_ok answered isWritten.isRead]
  rfl

/-- The status of what is gone is not missed. -/
theorem Patches.patchStatus_of_absent (patches : server.Patches key view)
    (patch : ObjectPatch NamespaceStatus) (expected : Option String) (gone : view state = none) :
    ∃ later, server.patchStatus Namespace.ofJson? NamespaceStatus.toJson .ns key patch expected
        state = (.ok (), later) ∧ view later = none := by
  dsimp only [patchStatus]
  cases patch.statusMergePatch NamespaceStatus.toJson expected with
  | none => exact ⟨state, rfl, gone⟩
  | some changes =>
      rcases patches.absent .status changes gone with ⟨_, _, _, later, answered, gone⟩
      refine ⟨later, ?_, gone⟩
      dsimp only [bind, StateT.bind]
      rw [fetch_of_error answered]
      rfl

/-! ### Whole patches -/

/-- A patch that is bound to the current version makes the same of the document as of the namespace
in memory. -/
theorem Patches.patchObject_of_current (patches : server.Patches key view)
    (there : view state = some document) (isDocument : Namespace.IsDocument document held)
    (isCurrent : held.metadata.resourceVersion = some version)
    (bound : patch.resourceVersion = some version) (effective : patch.isEmpty = false)
    (expressible : patch.Expressible held) (writer : Store) :
    ∃ later,
      server.patchObject Namespace.ofJson? NamespaceStatus.toJson .ns key patch state =
          (.ok (), later) ∧
        Namespace.Shown (view later) (held.patched patch writer) := by
  cases finalizers : patch.finalizers with
  | none =>
      cases status : patch.status with
      | none =>
          rw [ObjectPatch.isEmpty, finalizers, status] at effective
          cases effective
      | some after =>
          rcases patches.patchStatus_of_current there isDocument isCurrent status
            (expressible after status).1 (expressible after status).2 rfl with
              ⟨next, written, later, answered, isWritten, shown⟩
          have unchanged : patch.metadataMergePatch = none := by
            rw [ObjectPatch.metadataMergePatch, finalizers]
            rfl
          refine ⟨later, ?_, ?_⟩
          · dsimp only [patchObject, patchMetadata, bind, StateT.bind]
            rw [unchanged, bound]
            exact answered
          · rw [shown]
            refine Namespace.shown_patched isWritten ?_
            rw [Resource.withPatch, finalizers, status]
            rfl
  | some after =>
      rcases patches.patchMetadata_of_current there isDocument isCurrent bound finalizers rfl with
        ⟨next, written, middle, answered, isWritten, shown⟩
      dsimp only [patchObject, bind, StateT.bind]
      rw [answered]
      dsimp only
      cases status : patch.status with
      | none =>
          refine ⟨middle, ?_, ?_⟩
          · rw [patchStatus, ObjectPatch.statusMergePatch, status]
            rfl
          · rw [shown]
            refine Namespace.shown_patched isWritten ?_
            rw [Resource.withPatch, finalizers, status]
            rfl
      | some _ =>
          split at shown
          · rename_i released
            rcases patches.patchStatus_of_absent patch (some next) shown with
              ⟨later, answered, gone⟩
            have patched : held.patched patch writer = none := by
              refine if_pos ?_
              rw [Resource.withPatch, finalizers]
              exact released
            refine ⟨later, answered, ?_⟩
            rw [gone, patched]
            exact .absent
          · rcases patches.patchStatus_of_current shown isWritten rfl status
              (expressible _ status).1 (expressible _ status).2 rfl with
                ⟨last, rewritten, later, answered, isRewritten, shown⟩
            refine ⟨later, answered, ?_⟩
            rw [shown]
            refine Namespace.shown_patched isRewritten ?_
            rw [Resource.withPatch, finalizers, status]
            rfl

/-- A patch that is bound to another version than the current one is a conflict. -/
theorem Patches.patchObject_of_outdated (patches : server.Patches key view)
    (there : view state = some document) (outdated : document.version? ≠ some version)
    (bound : patch.resourceVersion = some version) (effective : patch.isEmpty = false) :
    ∃ message later,
      server.patchObject Namespace.ofJson? NamespaceStatus.toJson .ns key patch state =
          (.error (.conflict key.text message), later) ∧
        view later = some document := by
  have refused (part : ObjectPart) {changes : Json}
      (names : changes.version? = patch.resourceVersion) :
      ∃ status message reason later, server (.patch .ns key part changes) state =
        (.error (.refused status message reason 409), later) ∧ view later = some document := by
    refine patches.outdated part there ?_
    rw [names, bound]
    exact outdated
  dsimp only [patchObject, patchMetadata, bind, StateT.bind]
  cases isMain : patch.metadataMergePatch with
  | some changes =>
      rcases refused .main (version?_of_metadataMergePatch isMain) with
        ⟨_, message, _, later, answered, kept⟩
      refine ⟨message, later, ?_, kept⟩
      dsimp only [writeObject, bind, StateT.bind]
      rw [fetch_of_error answered]
      rfl
  | none =>
      cases isStatus : patch.statusMergePatch NamespaceStatus.toJson patch.resourceVersion with
      | some changes =>
          rcases refused .status (version?_of_statusMergePatch isStatus) with
            ⟨_, message, _, later, answered, kept⟩
          refine ⟨message, later, ?_, kept⟩
          dsimp only [patchStatus, pure, StateT.pure]
          rw [isStatus]
          dsimp only [bind, StateT.bind]
          rw [fetch_of_error answered]
          rfl
      | none =>
          rw [ObjectPatch.isEmpty, Option.map_eq_none_iff.mp isMain,
            Option.map_eq_none_iff.mp isStatus] at effective
          cases effective

/-- Of what is not there only the finalizers are missed. -/
theorem Patches.patchObject_of_absent (patches : server.Patches key view)
    (patch : ObjectPatch NamespaceStatus) (gone : view state = none) :
    ∃ result later,
      server.patchObject Namespace.ofJson? NamespaceStatus.toJson .ns key patch state =
          (result, later) ∧
        (result = .ok () ↔ patch.finalizers = none) ∧ view later = none := by
  cases finalizers : patch.finalizers with
  | none =>
      rcases patches.patchStatus_of_absent patch patch.resourceVersion gone with
        ⟨later, answered, gone⟩
      refine ⟨.ok (), later, ?_, ⟨fun _ => rfl, fun _ => rfl⟩, gone⟩
      dsimp only [patchObject, patchMetadata, bind, StateT.bind]
      rw [ObjectPatch.metadataMergePatch, finalizers]
      exact answered
  | some after =>
      rcases patches.absent .main _ gone with ⟨status, message, reason, later, answered, gone⟩
      refine ⟨.error (.api (.refused status message reason 404)), later, ?_, ⟨nofun, nofun⟩, gone⟩
      dsimp only [patchObject, patchMetadata, bind, StateT.bind]
      rw [ObjectPatch.metadataMergePatch, finalizers]
      dsimp only [Option.map_some, writeObject, bind, StateT.bind]
      rw [fetch_of_error answered]
      rfl

end ApiServer

end ClusterOperator
