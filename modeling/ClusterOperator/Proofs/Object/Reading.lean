import ClusterOperator.Object.Document
import ClusterOperator.Proofs.Json.MergePatch

/-!
# Reading objects from documents

An object is read member by member, so a document in which one member is set is read as the object
in which the same is set.
-/

namespace ClusterOperator

open Json

variable {fields : List (String × Json)}

/-- A list is read back where each of its items is. -/
theorem Json.listOf?_map {α : Type} {read : Json → Option α} {write : α → Json} {items : List α}
    (back : ∀ item ∈ items, read (write item) = some item) :
    listOf? read (.array (items.map write)) = some items := by
  change (items.map write).mapM read = some items
  induction items with
  | nil => rfl
  | cons item rest ih =>
      rcases List.forall_mem_cons.mp back with ⟨first, others⟩
      rw [List.map_cons, List.mapM_cons, first, ih others]
      rfl

theorem Json.listOf?_ofTextList (texts : List String) :
    listOf? string? (ofTextList texts) = some texts :=
  listOf?_map fun _ _ => rfl

theorem Json.eq_nil_of_listOf?_eq_nil {α : Type} {read : Json → Option α} {json : Json}
    (isRead : listOf? read json = some []) : json = .array [] := by
  cases json with
  | array items =>
      change items.mapM read = some [] at isRead
      cases items with
      | nil => rfl
      | cons item rest =>
          rw [List.mapM_cons] at isRead
          rcases Option.bind_eq_some_iff.mp isRead with ⟨_, _, isRead⟩
          rcases Option.bind_eq_some_iff.mp isRead with ⟨_, _, isCons⟩
          cases isCons
  | _ => cases isRead

/-- The members of a document say the metadata. -/
structure Metadata.ReadFrom (fields : List (String × Json)) (metadata : Metadata) : Prop where
  name : optional string? "name" fields = some metadata.name
  generateName : optional string? "generateName" fields = some metadata.generateName
  ns : optional string? "namespace" fields = some metadata.ns
  uid : optional string? "uid" fields = some metadata.uid
  resourceVersion : optional string? "resourceVersion" fields = some metadata.resourceVersion
  generation : optional (signed? 64) "generation" fields = some metadata.generation
  labels : optional (mapOf? string?) "labels" fields = some metadata.labels
  annotations : optional (mapOf? string?) "annotations" fields = some metadata.annotations
  finalizers : optional (listOf? string?) "finalizers" fields = some metadata.finalizers
  ownerReferences : optional (listOf? OwnerReference.ofJson?) "ownerReferences" fields =
    some metadata.ownerReferences
  deletionTimestamp : optional Instant.ofJson? "deletionTimestamp" fields =
    some metadata.deletionTimestamp
  rest : kept Metadata.keptNames fields = metadata.rest

namespace Metadata

variable {metadata : Metadata}

theorem ofJson?_eq_some_iff (distinct : Distinct fields) :
    ofJson? (.object fields) = some metadata ↔ metadata.ReadFrom fields := by
  have back {α : Type} (read : Json → Option α) (name : String) :
      optional read name fields.reverse = optional read name fields :=
    optional_congr (lookup_reverse distinct)
  have rest : kept keptNames fields.reverse = kept keptNames fields :=
    kept_congr fun name _ => lookup_reverse distinct
  simp only [ofJson?, lenientMembers?, Option.bind_eq_bind, Option.bind_some, back, rest,
    Option.bind_eq_some_iff, Option.pure_def, Option.some.injEq]
  constructor
  · rintro ⟨_, one, _, two, _, three, _, four, _, five, _, six, _, seven, _, eight, _, nine, _, ten,
      _, eleven, rfl⟩
    exact ⟨one, two, three, four, five, six, seven, eight, nine, ten, eleven, rfl⟩
  · rintro ⟨one, two, three, four, five, six, seven, eight, nine, ten, eleven, others⟩
    rw [others]
    exact ⟨_, one, _, two, _, three, _, four, _, five, _, six, _, seven, _, eight, _, nine, _, ten,
      _, eleven, rfl⟩

/-- A member that is set does not change how others are read. -/
theorem optional_withField {α : Type} {read : Json → Option α} {name other : String} {value : Json}
    (different : other ≠ name) :
    optional read name (withField other value fields) = optional read name fields := by
  refine optional_congr ?_
  rw [lookup_withField, if_neg different]

theorem kept_withField {names : List String} {other : String} {value : Json}
    (different : other ∉ names) : kept names (withField other value fields) = kept names fields := by
  refine kept_congr fun name there => ?_
  have apart : other ≠ name := by
    rintro rfl
    exact different there
  rw [lookup_withField, if_neg apart]

theorem ReadFrom.withVersion (read : metadata.ReadFrom fields) (version : String) :
    { metadata with resourceVersion := some version }.ReadFrom
      (withField "resourceVersion" (.string version) fields) where
  name := (optional_withField (by decide)).trans read.name
  generateName := (optional_withField (by decide)).trans read.generateName
  ns := (optional_withField (by decide)).trans read.ns
  uid := (optional_withField (by decide)).trans read.uid
  resourceVersion := optional_text (some version) (by rw [lookup_withField, if_pos rfl]; rfl)
  generation := (optional_withField (by decide)).trans read.generation
  labels := (optional_withField (by decide)).trans read.labels
  annotations := (optional_withField (by decide)).trans read.annotations
  finalizers := (optional_withField (by decide)).trans read.finalizers
  ownerReferences := (optional_withField (by decide)).trans read.ownerReferences
  deletionTimestamp := (optional_withField (by decide)).trans read.deletionTimestamp
  rest := (kept_withField (by decide)).trans read.rest

theorem ReadFrom.withFinalizers (read : metadata.ReadFrom fields) (finalizers : List String) :
    { metadata with finalizers := some finalizers }.ReadFrom
      (withField "finalizers" (ofTextList finalizers) fields) where
  name := (optional_withField (by decide)).trans read.name
  generateName := (optional_withField (by decide)).trans read.generateName
  ns := (optional_withField (by decide)).trans read.ns
  uid := (optional_withField (by decide)).trans read.uid
  resourceVersion := (optional_withField (by decide)).trans read.resourceVersion
  generation := (optional_withField (by decide)).trans read.generation
  labels := (optional_withField (by decide)).trans read.labels
  annotations := (optional_withField (by decide)).trans read.annotations
  finalizers := by
    refine optional_part ofTextList (some finalizers) ?_ ?_
    · rw [lookup_withField, if_pos rfl]
      rfl
    · rintro texts ⟨⟩
      exact ⟨nofun, listOf?_ofTextList _⟩
  ownerReferences := (optional_withField (by decide)).trans read.ownerReferences
  deletionTimestamp := (optional_withField (by decide)).trans read.deletionTimestamp
  rest := (kept_withField (by decide)).trans read.rest

end Metadata

namespace Resource

variable {Spec Status : Type} {readSpec : Json → Option Spec} {readStatus : Json → Option Status}
  {resource : Resource Spec Status}

/-- The members of a document say the object. -/
structure ReadFrom (readSpec : Json → Option Spec) (readStatus : Json → Option Status)
    (fields : List (String × Json)) (resource : Resource Spec Status) : Prop where
  metadata : required Metadata.ofJson? "metadata" fields = some resource.metadata
  spec : required readSpec "spec" fields = some resource.spec
  status : optional readStatus "status" fields = some resource.status

theorem ofJson?_eq_some_iff (distinct : Distinct fields) :
    ofJson? readSpec readStatus (.object fields) = some resource ↔
      resource.ReadFrom readSpec readStatus fields := by
  have known {name : String} (there : name ∈ memberNames) :
      lookup name (fields.filter fun field => field.1 ∈ memberNames) = lookup name fields :=
    lookup_filter there
  unfold ofJson?
  rw [strictMembers?_of_distinct memberNames distinct]
  dsimp only [guard]
  simp only [Option.bind_eq_bind, Option.bind_some, Option.bind_eq_some_iff, Option.pure_def,
    Option.some.injEq, required_congr (known (show "metadata" ∈ memberNames by decide)),
    required_congr (known (show "spec" ∈ memberNames by decide)),
    optional_congr (known (show "status" ∈ memberNames by decide))]
  constructor
  · rintro ⟨_, _, _, metadata, _, spec, _, status, rfl⟩
    exact ⟨metadata, spec, status⟩
  · rintro ⟨metadata, spec, status⟩
    exact ⟨(), rfl, _, metadata, _, spec, _, status, rfl⟩

end Resource

end ClusterOperator
