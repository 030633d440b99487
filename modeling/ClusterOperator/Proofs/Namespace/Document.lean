import ClusterOperator.Namespace.Document
import ClusterOperator.Object.Patch
import ClusterOperator.Proofs.Instant.Text
import ClusterOperator.Proofs.Object.Reading
import ClusterOperator.Store.Basic

/-!
# Documents of namespaces

A document on the API server stands for the namespace that is read from it. Merge patches that set
the finalizers or the status of the document set the same in the namespace. Conditions that are left
out because there are none are not taken away by a merge patch, so a status without conditions comes
through only where there were none before.
-/

namespace ClusterOperator

open Json

namespace Condition

theorem ofJson?_toJson {condition : Condition} (representable : condition.since.Representable) :
    ofJson? condition.toJson = some condition := by
  have ordered : condition.toJson.strictMembers? memberNames = some
      [("type", .string condition.type), ("status", .string condition.status.text),
        ("reason", .string condition.reason), ("message", .string condition.message),
        ("lastTransitionTime", condition.since.toJson)] :=
    strictMembers?_of_named (by decide) (by decide)
  have since : Instant.ofJson? condition.since.toJson = some condition.since := by
    rw [Instant.ofJson?, Instant.toJson, string?, Option.bind_some]
    exact Instant.read?_toText_iff.mpr representable
  have status : ConditionStatus.ofJson? (.string condition.status.text) = some condition.status :=
    ConditionStatus.ofText?_text condition.status
  unfold ofJson?
  rw [ordered]
  simp only [Option.bind_eq_bind, Option.bind_some, required, defaulted, lookup, string?, since,
    status, String.reduceEq, ↓reduceIte]
  rfl

theorem listOf?_toJson {conditions : List Condition}
    (representable : ∀ condition ∈ conditions, condition.since.Representable) :
    listOf? ofJson? (.array (conditions.map toJson)) = some conditions :=
  listOf?_map fun condition there => ofJson?_toJson (representable condition there)

end Condition

namespace NamespaceStatus

variable {fields : List (String × Json)} {status : NamespaceStatus}

theorem ofJson?_eq_some_iff (distinct : Distinct fields) :
    ofJson? (.object fields) = some status ↔
      defaulted [] (listOf? Condition.ofJson?) "conditions" fields = some status.conditions := by
  unfold ofJson?
  rw [strictMembers?_of_distinct memberNames distinct]
  have known : lookup "conditions" (fields.filter fun field => field.1 ∈ memberNames) =
      lookup "conditions" fields := lookup_filter (by decide)
  simp only [Option.bind_eq_bind, Option.bind_some, Option.bind_eq_some_iff, Option.pure_def,
    Option.some.injEq, defaulted, known]
  constructor
  · rintro ⟨conditions, are, rfl⟩
    exact are
  · intro are
    exact ⟨_, are, rfl⟩

end NamespaceStatus

/-- The document is an object, in which each name stands once, also among its metadata and in its
status. -/
structure Json.Plain (document : Json) : Prop where
  isObject : document = .object document.fields
  distinct : Distinct document.fields
  metadata : ∃ members, document.field? "metadata" = some (.object members) ∧ Distinct members
  status : ∀ status, document.field? "status" = some status → Distinct status.fields

/-- The plain document of a namespace. -/
structure Namespace.IsDocument (document : Json) (held : Namespace) : Prop where
  plain : document.Plain
  isRead : Namespace.ofJson? document = some held

/-- The version that a document says it is of. -/
def Json.version? (document : Json) : Option String :=
  ((document.field? "metadata").bind (·.field? "resourceVersion")).bind string?

/-- The merge patch that sets a version. -/
def versionPatch (version : String) : Json :=
  .object [("metadata", .object [("resourceVersion", .string version)])]

/-- Whether a document says that the object is being deleted and nothing keeps it. -/
def Json.isReleased (document : Json) : Bool :=
  let member := fun name => (document.field? "metadata").bind (·.field? name)
  let isDeleting :=
    match member "deletionTimestamp" with
    | none => false
    | some null => false
    | some _ => true
  let isBare :=
    match member "finalizers" with
    | none => true
    | some null => true
    | some (array []) => true
    | some _ => false
  isDeleting && isBare

namespace Namespace.IsDocument

variable {document : Json} {held : Namespace} {version : String}

theorem exists_metadata (isDocument : IsDocument document held) :
    ∃ fields members, document = .object fields ∧ Distinct fields ∧
      lookup "metadata" fields = some (.object members) ∧ Distinct members ∧
      held.metadata.ReadFrom members ∧
      held.ReadFrom NamespaceSpec.ofJson? NamespaceStatus.ofJson? fields := by
  rcases isDocument with ⟨⟨isObject, distinct, ⟨members, there, distinctMembers⟩, _⟩, isRead⟩
  rw [isObject] at isRead
  have read := (Resource.ofJson?_eq_some_iff distinct).mp isRead
  refine ⟨_, members, isObject, distinct, there, distinctMembers, ?_, read⟩
  have metadata := read.metadata
  unfold required at metadata
  rw [show lookup "metadata" document.fields = _ from there] at metadata
  exact (Metadata.ofJson?_eq_some_iff distinctMembers).mp metadata

theorem version?_eq (isDocument : IsDocument document held) :
    document.version? = held.metadata.resourceVersion := by
  rcases isDocument.exists_metadata with ⟨fields, members, rfl, _, there, _, read, _⟩
  unfold Json.version? field?
  rw [show lookup "metadata" (Json.object fields).fields = _ from there]
  exact bind_string?_lookup read.resourceVersion

theorem isReleased_eq (isDocument : IsDocument document held) :
    document.isReleased = held.metadata.isReleased := by
  rcases isDocument.exists_metadata with ⟨fields, members, rfl, _, there, _, read, _⟩
  have member (name : String) : ((Json.object fields).field? "metadata").bind (·.field? name) =
      lookup name members := by
    rw [show (Json.object fields).field? "metadata" = _ from there]
    rfl
  unfold Json.isReleased Metadata.isReleased
  dsimp only
  rw [member, member]
  congr 1
  · unfold Metadata.isDeleting
    rcases optional_cases read.deletionTimestamp with
      ⟨none, nothing⟩ | ⟨json, time, is, set, _, some⟩
    · rw [none]
      split
      · rfl
      · rfl
      · rename_i set is
        exact absurd (nothing _ is) set
    · rw [some, is]
      cases json with
      | null => exact absurd rfl set
      | _ => rfl
  · unfold Metadata.finalizerList
    rcases optional_cases read.finalizers with
      ⟨none, nothing⟩ | ⟨json, texts, is, set, isRead, some⟩
    · rw [none]
      split
      · rfl
      · rfl
      · rfl
      · rename_i set _ is
        exact absurd (nothing _ is) set
    · rw [some, is]
      cases texts with
      | nil =>
          rw [eq_nil_of_listOf?_eq_nil isRead]
          rfl
      | cons first rest =>
          split
          · rename_i absent
            cases absent
          · rename_i isNull
            cases isNull
            exact absurd rfl set
          · rename_i isEmpty
            cases isEmpty
            cases isRead
          · rfl

/-- The document with other metadata. -/
theorem withMetadata {fields members : List (String × Json)} {metadata : Metadata}
    (isDocument : IsDocument (.object fields) held) (distinct : Distinct members)
    (read : metadata.ReadFrom members) :
    IsDocument (.object (withField "metadata" (.object members) fields))
      { held with metadata } := by
  rcases isDocument with ⟨⟨_, distinctFields, _, status⟩, isRead⟩
  have whole := (Resource.ofJson?_eq_some_iff distinctFields).mp isRead
  have otherwise {name : String} (different : "metadata" ≠ name) :
      lookup name (withField "metadata" (.object members) fields) = lookup name fields := by
    rw [lookup_withField, if_neg different]
  have there : lookup "metadata" (withField "metadata" (.object members) fields) =
      some (.object members) := by
    rw [lookup_withField, if_pos rfl]
  have distinct' : Distinct (withField "metadata" (.object members) fields) :=
    Distinct.withField distinctFields _ _
  refine ⟨⟨rfl, distinct', ⟨members, there, distinct⟩, ?_⟩, ?_⟩
  · intro held isStatus
    exact status held ((otherwise (by decide)).symm.trans isStatus)
  · refine (Resource.ofJson?_eq_some_iff distinct').mpr ⟨?_, ?_, ?_⟩
    · unfold required
      rw [there]
      exact (Metadata.ofJson?_eq_some_iff distinct).mpr read
    · exact (required_congr (otherwise (by decide))).trans whole.spec
    · exact (optional_congr (otherwise (by decide))).trans whole.status

/-- The document with another status. -/
theorem withStatus {fields members : List (String × Json)} {status : NamespaceStatus}
    (isDocument : IsDocument (.object fields) held) (distinct : Distinct members)
    (read : NamespaceStatus.ofJson? (.object members) = some status) :
    IsDocument (.object (withField "status" (.object members) fields))
      { held with status := some status } := by
  rcases isDocument with ⟨⟨_, distinctFields, ⟨metadata, there, distinctMetadata⟩, _⟩, isRead⟩
  have whole := (Resource.ofJson?_eq_some_iff distinctFields).mp isRead
  have otherwise {name : String} (different : "status" ≠ name) :
      lookup name (withField "status" (.object members) fields) = lookup name fields := by
    rw [lookup_withField, if_neg different]
  have isStatus : lookup "status" (withField "status" (.object members) fields) =
      some (.object members) := by
    rw [lookup_withField, if_pos rfl]
  have distinct' : Distinct (withField "status" (.object members) fields) :=
    Distinct.withField distinctFields _ _
  refine ⟨⟨rfl, distinct', ⟨metadata, ?_, distinctMetadata⟩, ?_⟩, ?_⟩
  · exact (otherwise (by decide)).trans there
  · intro held is
    cases isStatus.symm.trans is
    exact distinct
  · refine (Resource.ofJson?_eq_some_iff distinct').mpr ⟨?_, ?_, ?_⟩
    · exact (required_congr (otherwise (by decide))).trans whole.metadata
    · exact (required_congr (otherwise (by decide))).trans whole.spec
    · unfold Json.optional
      rw [isStatus]
      exact congrArg (Option.map some) read

/-! ### Merge patches -/

/-- Setting the version of a document. -/
theorem mergePatch_version (isDocument : IsDocument document held) (version : String) :
    IsDocument (document.mergePatch (versionPatch version))
      { held with metadata := { held.metadata with resourceVersion := some version } } := by
  rcases isDocument.exists_metadata with ⟨fields, members, rfl, _, there, distinct, read, _⟩
  have merged : (Json.object fields).mergePatch (versionPatch version) =
      .object (withField "metadata"
        (.object (withField "resourceVersion" (.string version) members)) fields) := by
    simp only [versionPatch, mergePatch, mergeFields, Json.fields, there, Option.getD_some]
  rw [merged]
  exact isDocument.withMetadata (distinct.withField _ _) (read.withVersion version)

/-- Setting the finalizers of a document, with the version that the patch is bound to. -/
theorem mergePatch_finalizers (isDocument : IsDocument document held) (finalizers : List String) :
    IsDocument
      (document.mergePatch (.object [("metadata", .object
        [("resourceVersion", .string version), ("finalizers", ofTextList finalizers)])]))
      { held with
        metadata :=
          { held.metadata with
            resourceVersion := some version, finalizers := some finalizers } } := by
  rcases isDocument.exists_metadata with ⟨fields, members, rfl, _, there, distinct, read, _⟩
  have merged : (Json.object fields).mergePatch (.object [("metadata", .object
        [("resourceVersion", .string version), ("finalizers", ofTextList finalizers)])]) =
      .object (withField "metadata"
        (.object (withField "finalizers" (ofTextList finalizers)
          (withField "resourceVersion" (.string version) members))) fields) := by
    simp only [ofTextList, mergePatch, mergeFields, Json.fields, there, Option.getD_some]
  rw [merged]
  exact isDocument.withMetadata ((distinct.withField _ _).withField _ _)
    ((read.withVersion version).withFinalizers finalizers)

/-- Setting the status of a document. -/
theorem mergePatch_status {status : NamespaceStatus} (isDocument : IsDocument document held)
    (representable : ∀ condition ∈ status.conditions, condition.since.Representable)
    (kept : status.conditions = [] → ∀ earlier, held.status = some earlier →
      earlier.conditions = []) :
    IsDocument
      (document.mergePatch (.object
        [("metadata", .object [("resourceVersion", .string version)]),
          ("status", status.toJson)]))
      { held with
        metadata := { held.metadata with resourceVersion := some version }
        status := some status } := by
  have bound := isDocument.mergePatch_version version
  have first : document.mergePatch (.object
        [("metadata", .object [("resourceVersion", .string version)]),
          ("status", status.toJson)]) =
      (document.mergePatch (versionPatch version)).mergePatch
        (.object [("status", status.toJson)]) := by
    simp only [versionPatch, NamespaceStatus.toJson, mergePatch, mergeFields, Json.fields]
  rw [first]
  generalize document.mergePatch (versionPatch version) = document at bound
  rcases bound.exists_metadata with ⟨fields, _, rfl, _, _, _, _, read⟩
  have merged : (Json.object fields).mergePatch (.object [("status", status.toJson)]) =
      .object (withField "status" (.object (mergeFields
        ((lookup "status" fields).getD .null).fields (Condition.listField status.conditions)))
        fields) := by
    simp only [NamespaceStatus.toJson, mergePatch, mergeFields, Json.fields]
  rw [merged]
  have distinct : Distinct ((lookup "status" fields).getD .null).fields := by
    cases there : lookup "status" fields with
    | none => exact List.Pairwise.nil
    | some earlier => exact bound.plain.status earlier there
  refine bound.withStatus ?_ ?_
  · unfold Condition.listField
    split
    · exact distinct
    · exact distinct.withField _ _
  · unfold Condition.listField
    split
    · rename_i none
      refine (NamespaceStatus.ofJson?_eq_some_iff distinct).mpr ?_
      rw [none]
      -- only an object has conditions that could stay
      cases there : lookup "status" fields with
      | none => rfl
      | some earlier =>
          cases earlier with
          | object members =>
              have isRead := read.status
              unfold Json.optional at isRead
              rw [there] at isRead
              rcases Option.map_eq_some_iff.mp isRead with ⟨prior, isPrior, is⟩
              rw [there] at distinct
              have conditions := (NamespaceStatus.ofJson?_eq_some_iff distinct).mp isPrior
              rw [kept none prior is.symm] at conditions
              exact conditions
          | _ => rfl
    · have there : lookup "conditions" (withField "conditions"
          (.array (status.conditions.map Condition.toJson))
          ((lookup "status" fields).getD .null).fields) =
            some (.array (status.conditions.map Condition.toJson)) := by
        rw [lookup_withField, if_pos rfl]
      exact (NamespaceStatus.ofJson?_eq_some_iff (distinct.withField _ _)).mpr
        (defaulted_of_lookup _ _ there (Condition.listOf?_toJson representable))

end Namespace.IsDocument

end ClusterOperator
