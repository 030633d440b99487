import ClusterOperator.Cluster.Document
import ClusterOperator.Proofs.Namespace.Document

/-!
# Documents of statuses

The document of a status leaves out what is empty. It is read back as the status, in whatever order
its members stand, if the times of its conditions are ones that a time stamp can be.
-/

namespace ClusterOperator

open Json

/-! ### Records that leave out what is empty -/

/-- The place of a member of a record, which stays empty where there is nothing to say. -/
inductive Json.Slot (name : String) (said : Prop) : List (String × Json) → Prop
  | empty (nothing : ¬ said) : Slot name said []
  | full {value : Json} (something : said) (leaf : value.IsLeaf) : Slot name said [(name, value)]

namespace Json.Slot

variable {name : String} {said also : Prop} {fields others : List (String × Json)}

theorem isLeaf (slot : Slot name said fields) {field : String × Json} (there : field ∈ fields) :
    field.2.IsLeaf := by
  cases slot with
  | empty nothing => cases there
  | full something leaf =>
      cases List.mem_singleton.mp there
      exact leaf

theorem subset (slot : Slot name said fields) (other : Slot name also others)
    (stays : said → also) : fields.map Prod.fst ⊆ others.map Prod.fst := by
  cases slot with
  | empty nothing => exact List.nil_subset _
  | full something leaf =>
      cases other with
      | empty nothing => exact absurd (stays something) nothing
      | full something leaf => exact List.Subset.refl _

end Json.Slot

theorem Condition.slot_listField (conditions : List Condition) :
    Slot "conditions" (conditions ≠ []) (listField conditions) := by
  unfold listField
  split
  · rename_i none
    exact .empty (absurd none)
  · exact .full ‹_› trivial

namespace ClusterStatus

theorem slot_version (status : ClusterStatus) :
    Slot "version" (status.version ≠ none) (optionalField "version" .string status.version) := by
  cases status.version with
  | none => exact .empty (absurd rfl)
  | some version => exact .full nofun trivial

theorem slot_services (status : ClusterStatus) :
    Slot "services" (status.services ≠ [])
      (if status.services = [] then []
        else [("services", .array (status.services.map RoleStatus.toJson))]) := by
  split
  · rename_i none
    exact .empty (absurd none)
  · exact .full ‹_› trivial

theorem flat_toJson (status : ClusterStatus) : status.toJson.Flat where
  isObject := rfl
  distinct := by
    dsimp only [toJson, Json.fields, Condition.listField]
    exact Named.distinct (by decide)
  leaves := by
    intro field there
    rcases List.mem_append.mp there with there | isServices
    · rcases List.mem_append.mp there with isConditions | isVersion
      · exact (Condition.slot_listField status.conditions).isLeaf isConditions
      · exact status.slot_version.isLeaf isVersion
    · exact status.slot_services.isLeaf isServices

end ClusterStatus

theorem NamespaceStatus.flat_toJson (status : NamespaceStatus) : status.toJson.Flat where
  isObject := rfl
  distinct := by
    dsimp only [toJson, Json.fields, Condition.listField]
    exact Named.distinct (by decide)
  leaves := fun _ there => (Condition.slot_listField status.conditions).isLeaf there

/-! ### Reading statuses back -/

namespace Json

variable {α : Type} {name other : String} {members : List (String × Json)}

theorem lookup_ite (nothing : Prop) [Decidable nothing] (value : Json) :
    lookup name (if nothing then [] else [(other, value)]) =
      if other = name then (if nothing then none else some value) else none := by
  split <;> simp [lookup]

/-- A list that is left out where it is empty is read as empty where it is left out. -/
theorem defaulted_list {read : Json → Option α} {write : α → Json} (items : List α)
    (found : lookup name members =
      if items = [] then none else some (.array (items.map write)))
    (back : ∀ item ∈ items, read (write item) = some item) :
    defaulted [] (listOf? read) name members = some items := by
  split at found
  · rename_i empty
    rw [defaulted_of_absent found, empty]
  · exact defaulted_of_lookup _ _ found (listOf?_map back)

end Json

/-- The times of conditions are ones that a time stamp can be. -/
def Condition.Stampable (conditions : List Condition) : Prop :=
  ∀ condition ∈ conditions, condition.since.Representable

theorem RoleStatus.ofJson?_toJson (status : RoleStatus) : ofJson? status.toJson = some status := by
  have ordered : status.toJson.strictMembers? memberNames = some
      [("name", .string status.name), ("version", .string status.version),
        ("ready", .bool status.ready)] :=
    strictMembers?_of_named (by decide) (by decide)
  unfold ofJson?
  rw [ordered]
  rfl

namespace ClusterStatus

variable {fields : List (String × Json)} {status : ClusterStatus} {written : Json}

/-- The members of a document say the status. -/
structure ReadFrom (fields : List (String × Json)) (status : ClusterStatus) : Prop where
  conditions :
    defaulted [] (listOf? Condition.ofJson?) "conditions" fields = some status.conditions
  version : optional string? "version" fields = some status.version
  services : defaulted [] (listOf? RoleStatus.ofJson?) "services" fields = some status.services

theorem ReadFrom.ofJson?_eq (read : status.ReadFrom fields) (distinct : Distinct fields) :
    ofJson? (.object fields) = some status := by
  have known {name : String} (there : name ∈ memberNames) :
      lookup name (fields.filter fun field => field.1 ∈ memberNames) = lookup name fields :=
    lookup_filter there
  unfold ofJson?
  rw [strictMembers?_of_distinct memberNames distinct]
  dsimp only [Option.bind_eq_bind, Option.bind_some]
  rw [defaulted_congr (known (show "conditions" ∈ memberNames by decide)), read.conditions,
    optional_congr (known (show "version" ∈ memberNames by decide)), read.version,
    defaulted_congr (known (show "services" ∈ memberNames by decide)), read.services]
  rfl

theorem readFrom_toJson (stampable : Condition.Stampable status.conditions) :
    status.ReadFrom status.toJson.fields where
  conditions := by
    refine defaulted_list status.conditions ?_
      fun condition there => Condition.ofJson?_toJson (stampable condition there)
    simp [toJson, Json.fields, Condition.listField, lookup_append, lookup_ite, lookup_optionalField]
  version := by
    refine optional_text status.version ?_
    simp [toJson, Json.fields, Condition.listField, lookup_append, lookup_ite, lookup_optionalField]
  services := by
    refine defaulted_list status.services ?_ fun status _ => status.ofJson?_toJson
    simp [toJson, Json.fields, Condition.listField, lookup_append, lookup_ite, lookup_optionalField]

/-- A document with the members of that of a status is read as the status. -/
theorem ofJson?_of_sameMembers (same : written.SameMembers status.toJson)
    (stampable : Condition.Stampable status.conditions) : ofJson? written = some status := by
  have distinct := status.flat_toJson.distinct
  have read := readFrom_toJson stampable
  generalize status.toJson = document at same distinct read
  cases same with
  | object perm =>
      have found {name : String} : lookup name _ = lookup name _ := lookup_eq_of_perm distinct perm
      refine ReadFrom.ofJson?_eq ⟨?_, ?_, ?_⟩ (distinct.of_perm perm)
      · exact (defaulted_congr found).trans read.conditions
      · exact (optional_congr found).trans read.version
      · exact (defaulted_congr found).trans read.services

end ClusterStatus

/-- A document with the members of that of a status is read as the status. -/
theorem NamespaceStatus.ofJson?_of_sameMembers {status : NamespaceStatus} {written : Json}
    (same : written.SameMembers status.toJson)
    (stampable : Condition.Stampable status.conditions) : ofJson? written = some status := by
  have distinct := status.flat_toJson.distinct
  have read : defaulted [] (listOf? Condition.ofJson?) "conditions" status.toJson.fields =
      some status.conditions := by
    refine defaulted_list status.conditions ?_
      fun condition there => Condition.ofJson?_toJson (stampable condition there)
    simp [toJson, Json.fields, Condition.listField, lookup_ite]
  generalize status.toJson = document at same distinct read
  cases same with
  | object perm =>
      refine (ofJson?_eq_some_iff (distinct.of_perm perm)).mpr ?_
      exact (defaulted_congr (lookup_eq_of_perm distinct perm)).trans read

end ClusterOperator
