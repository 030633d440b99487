import ClusterOperator.Proofs.Cluster.Readiness
import ClusterOperator.Proofs.Condition.Document
import ClusterOperator.Proofs.Run.Gating
import ClusterOperator.Proofs.Run.Recording

/-!
# What the patch of a pass makes of a document

A merge patch takes nothing away that it does not name, and the document of a status leaves out what
is empty. So a status comes through a merge patch only where it has everything that the one before
it had. Every pass leaves such a status: what it records is never without conditions, a version is
replaced and not taken away, and a pass that succeeds reports on all services.
-/

namespace ClusterOperator

open Json Program

namespace ClusterStatus

/-- A status that has everything that an earlier one has. -/
structure Covers (status earlier : ClusterStatus) : Prop where
  conditions : earlier.conditions ≠ [] → status.conditions ≠ []
  version : earlier.version ≠ none → status.version ≠ none
  services : earlier.services ≠ [] → status.services ≠ []

theorem Covers.names_subset {status earlier : ClusterStatus} (covers : status.Covers earlier) :
    earlier.toJson.fields.map Prod.fst ⊆ status.toJson.fields.map Prod.fst := by
  have conditions := (Condition.slot_listField earlier.conditions).subset
    (Condition.slot_listField status.conditions) covers.conditions
  have version := earlier.slot_version.subset status.slot_version covers.version
  have services := earlier.slot_services.subset status.slot_services covers.services
  dsimp only [toJson, Json.fields]
  simp only [List.map_append]
  intro name there
  rcases List.mem_append.mp there with there | isServices
  · rcases List.mem_append.mp there with isConditions | isVersion
    · exact List.mem_append_left _ (List.mem_append_left _ (conditions isConditions))
    · exact List.mem_append_left _ (List.mem_append_right _ (version isVersion))
  · exact List.mem_append_right _ (services isServices)

end ClusterStatus

/-! ### The parts of a patch -/

namespace Json

variable {document : Json} {name : String} {members rest : List (String × Json)}

/-- A member of the metadata in the document of an object. -/
def metadata? (document : Json) (name : String) : Option Json :=
  (document.field? "metadata").bind (·.field? name)

/-- The document after a merge patch, if there is one. -/
def mergeSome (document : Json) : Option Json → Json
  | none => document
  | some changes => document.mergePatch changes

theorem metadata?_eq_lookup :
    document.metadata? name = lookup name ((document.field? "metadata").getD null).fields := by
  unfold metadata?
  cases document.field? "metadata" with
  | none => rfl
  | some metadata => rfl

theorem metadata?_mergePatch (distinct : Distinct (("metadata", object members) :: rest)) :
    (document.mergePatch (object (("metadata", object members) :: rest))).metadata? name =
      lookup name (mergeFields ((document.field? "metadata").getD null).fields members) := by
  have something : object members ≠ null := nofun
  unfold metadata?
  rw [field?_mergePatch_of_mem distinct (List.mem_cons_self ..) something, mergePatch_object]
  rfl

end Json

namespace ObjectPatch

variable {Spec Status : Type} {patch : ObjectPatch Status} {writeStatus : Status → Json}
  {version : Option String} {document : Json} {name : String}

/-- The document after both parts of a patch, of which the second is bound to a version. -/
def merged (writeStatus : Status → Json) (version : Option String) (patch : ObjectPatch Status)
    (document : Json) : Json :=
  (document.mergeSome patch.metadataMergePatch).mergeSome
    (patch.statusMergePatch writeStatus version)

theorem distinct_metadataPart {metadata : Json} : Distinct [("metadata", metadata)] :=
  List.nodup_singleton _

theorem distinct_statusParts {metadata status : Json} :
    Distinct [("metadata", metadata), ("status", status)] := by
  simp [Distinct]

theorem field?_mergeMetadata (other : "metadata" ≠ name) :
    (document.mergeSome patch.metadataMergePatch).field? name = document.field? name := by
  unfold metadataMergePatch
  cases patch.finalizers with
  | none => rfl
  | some texts =>
      apply field?_mergePatch_of_not_mem
      simpa using Ne.symm other

theorem metadata?_mergeMetadata (different : "resourceVersion" ≠ name)
    (other : "finalizers" ≠ name) :
    (document.mergeSome patch.metadataMergePatch).metadata? name = document.metadata? name := by
  unfold metadataMergePatch
  cases patch.finalizers with
  | none => rfl
  | some texts =>
      refine (metadata?_mergePatch distinct_metadataPart).trans ?_
      rw [metadata?_eq_lookup]
      apply lookup_mergeFields_of_not_mem
      simpa using ⟨Ne.symm different, Ne.symm other⟩

theorem finalizers_mergeMetadata :
    (document.mergeSome patch.metadataMergePatch).metadata? "finalizers" =
      (patch.finalizers.map ofTextList).or (document.metadata? "finalizers") := by
  unfold metadataMergePatch
  cases patch.finalizers with
  | none => rfl
  | some texts =>
      have leaf : (ofTextList texts).IsLeaf := trivial
      have distinct : Distinct [("resourceVersion", orNull string patch.resourceVersion),
          ("finalizers", ofTextList texts)] := by
        simp [Distinct]
      refine (metadata?_mergePatch distinct_metadataPart).trans ?_
      rw [lookup_mergeFields_of_mem distinct (.tail _ (.head _)) leaf.ne_null, leaf.mergePatch_eq]
      rfl

theorem field?_mergeStatus (different : "metadata" ≠ name) (other : "status" ≠ name) :
    (document.mergeSome (patch.statusMergePatch writeStatus version)).field? name =
      document.field? name := by
  unfold statusMergePatch
  cases patch.status with
  | none => rfl
  | some status =>
      apply field?_mergePatch_of_not_mem
      simpa using ⟨Ne.symm different, Ne.symm other⟩

theorem metadata?_mergeStatus (different : "resourceVersion" ≠ name) :
    (document.mergeSome (patch.statusMergePatch writeStatus version)).metadata? name =
      document.metadata? name := by
  unfold statusMergePatch
  cases patch.status with
  | none => rfl
  | some status =>
      refine (metadata?_mergePatch distinct_statusParts).trans ?_
      rw [metadata?_eq_lookup]
      apply lookup_mergeFields_of_not_mem
      simpa using Ne.symm different

theorem status_mergeStatus {status : Status} (changed : patch.status = some status)
    (flat : (writeStatus status).Flat) :
    (document.mergeSome (patch.statusMergePatch writeStatus version)).field? "status" =
      some (((document.field? "status").getD null).mergePatch (writeStatus status)) := by
  have something : writeStatus status ≠ null := by
    rw [flat.isObject]
    exact nofun
  rw [statusMergePatch, changed]
  exact field?_mergePatch_of_mem distinct_statusParts (.tail _ (.head _)) something

/-- The patch is empty only where nothing has changed, and makes of a document that of the object as
it is left: with its finalizers, with the members of its status and no others, from which the status
is read, and but for the version, to which the patch is bound, with everything else as it was. -/
structure Carries [HasConditions Status] (readStatus : Json → Option Status)
    (writeStatus : Status → Json) (document : Json) (held after : Resource Spec Status)
    (patch : ObjectPatch Status) : Prop where
  isEmpty_iff : patch.isEmpty ↔
    after.metadata.finalizerList = held.metadata.finalizerList ∧ after.status = held.status
  finalizers (version : Option String) :
    ((patch.merged writeStatus version document).metadata? "finalizers").getD (.array []) =
      ofTextList after.metadata.finalizerList
  noStatus (version : Option String) : after.status = none →
    (patch.merged writeStatus version document).field? "status" = none
  status (version : Option String) (status : Status) : after.status = some status →
    ∃ written, (patch.merged writeStatus version document).field? "status" = some written ∧
      written.SameMembers (writeStatus status) ∧
      (Condition.Stampable (HasConditions.conditions status) → readStatus written = some status)
  metadata (version : Option String) (name : String) :
    "resourceVersion" ≠ name → "finalizers" ≠ name →
      (patch.merged writeStatus version document).metadata? name = document.metadata? name
  others (version : Option String) (name : String) : "metadata" ≠ name → "status" ≠ name →
    (patch.merged writeStatus version document).field? name = document.field? name

end ObjectPatch

namespace Resource

variable {Spec Status : Type} {apiVersion kind : String} {writeSpec : Spec → Json}
  {writeStatus : Status → Json} {held after : Resource Spec Status}

theorem status_toJson (held : Resource Spec Status) :
    (held.toJson apiVersion kind writeSpec writeStatus).field? "status" =
      held.status.map writeStatus := by
  simp [field?, toJson, Json.fields, lookup_optionalField, lookup]

theorem finalizers_toJson (held : Resource Spec Status) :
    (held.toJson apiVersion kind writeSpec writeStatus).metadata? "finalizers" =
      held.metadata.finalizers.map ofTextList := by
  have apart : lookup "finalizers" (kept Metadata.keptNames held.metadata.rest) = none :=
    lookup_kept_of_not_mem (by decide)
  simp [metadata?, field?, toJson, Metadata.toJson, Json.fields, lookup_append,
    lookup_optionalField, lookup, apart]

section Differences

variable [DecidableEq Status] {version : Option String} {status : Status}

theorem isEmpty_between_iff (kept : after.status = none → held.status = none) :
    (ObjectPatch.between held after).isEmpty ↔
      after.metadata.finalizerList = held.metadata.finalizerList ∧
        after.status = held.status := by
  dsimp only [ObjectPatch.isEmpty, ObjectPatch.between]
  rw [Bool.and_eq_true, Option.isNone_iff_eq_none, Option.isNone_iff_eq_none]
  apply and_congr
  · constructor
    · intro none
      by_contra changed
      rw [if_neg changed] at none
      cases none
    · intro same
      exact if_pos same
  · constructor
    · intro none
      by_contra changed
      rw [if_neg changed] at none
      exact changed (none.trans (kept none).symm)
    · intro same
      exact if_pos same

theorem finalizers_merged :
    (((ObjectPatch.between held after).merged writeStatus version
      (held.toJson apiVersion kind writeSpec writeStatus)).metadata? "finalizers").getD
        (.array []) = ofTextList after.metadata.finalizerList := by
  rw [ObjectPatch.merged, ObjectPatch.metadata?_mergeStatus (by decide),
    ObjectPatch.finalizers_mergeMetadata, finalizers_toJson]
  dsimp only [ObjectPatch.between]
  split
  · rename_i same
    rw [same]
    cases isSet : held.metadata.finalizers with
    | none => simp [Metadata.finalizerList, isSet, ofTextList]
    | some texts => simp [Metadata.finalizerList, isSet]
  · rfl

/-- A status that has not changed stays in the document as it was written. -/
theorem status_merged_of_eq (same : after.status = held.status) :
    ((ObjectPatch.between held after).merged writeStatus version
      (held.toJson apiVersion kind writeSpec writeStatus)).field? "status" =
      after.status.map writeStatus := by
  have unchanged : (ObjectPatch.between held after).statusMergePatch writeStatus version =
      none := by
    simp [ObjectPatch.statusMergePatch, ObjectPatch.between, same]
  rw [ObjectPatch.merged, unchanged, same, ← status_toJson held]
  exact ObjectPatch.field?_mergeMetadata (by decide)

/-- A status that has changed takes the place of the one before it, where it names everything that
was there. -/
theorem status_merged_of_ne (changed : after.status ≠ held.status)
    (isStatus : after.status = some status) (flat : ∀ status, (writeStatus status).Flat)
    (named : ∀ earlier, held.status = some earlier →
      (writeStatus earlier).fields.map Prod.fst ⊆ (writeStatus status).fields.map Prod.fst) :
    ∃ written,
      ((ObjectPatch.between held after).merged writeStatus version
        (held.toJson apiVersion kind writeSpec writeStatus)).field? "status" = some written ∧
      written.SameMembers (writeStatus status) := by
  have isPatch : (ObjectPatch.between held after).status = some status := by
    rw [← isStatus]
    exact if_neg changed
  have before : ((held.toJson apiVersion kind writeSpec writeStatus).mergeSome
      (ObjectPatch.between held after).metadataMergePatch).field? "status" =
        held.status.map writeStatus :=
    (ObjectPatch.field?_mergeMetadata (by decide)).trans (status_toJson held)
  refine ⟨_, ObjectPatch.status_mergeStatus isPatch (flat status), ?_⟩
  rw [before]
  cases isEarlier : held.status with
  | none => exact (flat status).sameMembers_mergePatch List.nodup_nil (List.nil_subset _)
  | some earlier =>
      exact (flat status).sameMembers_mergePatch (flat earlier).distinct (named earlier isEarlier)

theorem carries_between [HasConditions Status] {readStatus : Json → Option Status}
    (kept : after.status = none → held.status = none) (flat : ∀ status, (writeStatus status).Flat)
    (back : ∀ status written, written.SameMembers (writeStatus status) →
      Condition.Stampable (HasConditions.conditions status) → readStatus written = some status)
    (named : ∀ status earlier, after.status = some status → held.status = some earlier →
      (writeStatus earlier).fields.map Prod.fst ⊆ (writeStatus status).fields.map Prod.fst) :
    (ObjectPatch.between held after).Carries readStatus writeStatus
      (held.toJson apiVersion kind writeSpec writeStatus) held after where
  isEmpty_iff := isEmpty_between_iff kept
  finalizers := fun _ => finalizers_merged
  noStatus := by
    intro version unset
    rw [status_merged_of_eq (unset.trans (kept unset).symm), unset]
    rfl
  status := by
    intro version status isStatus
    have merged : ∃ written,
        ((ObjectPatch.between held after).merged writeStatus version
          (held.toJson apiVersion kind writeSpec writeStatus)).field? "status" = some written ∧
        written.SameMembers (writeStatus status) := by
      by_cases same : after.status = held.status
      · refine ⟨writeStatus status, ?_, ?_⟩
        · rw [status_merged_of_eq same, isStatus]
          rfl
        · rw [(flat status).isObject]
          exact .object (List.Perm.refl _)
      · exact status_merged_of_ne same isStatus flat fun earlier => named status earlier isStatus
    rcases merged with ⟨written, there, same⟩
    exact ⟨written, there, same, back status written same⟩
  metadata := by
    intro version name different other
    rw [ObjectPatch.merged, ObjectPatch.metadata?_mergeStatus different,
      ObjectPatch.metadata?_mergeMetadata different other]
  others := by
    intro version name different other
    rw [ObjectPatch.merged, ObjectPatch.field?_mergeStatus different other,
      ObjectPatch.field?_mergeMetadata different]

end Differences

variable [HasConditions Status] [LawfulConditions Status] {changed : Resource Spec Status}
  {outcome : Except Error Outcome}

/-- A pass takes no conditions away. -/
theorem LeftBy.conditions_ne_nil (left : held.LeftBy changed outcome) (now : Instant)
    (something : held.conditions ≠ []) : (changed.record now outcome).conditions ≠ [] := by
  cases recorded : IsRecorded outcome with
  | false =>
      rw [conditions_of_status_eq (left.status_eq recorded now)]
      exact something
  | true =>
      intro none
      have told := tell_record recorded now changed
      rw [none] at told
      cases told with
      | success found => cases found
      | error failed => cases failed

end Resource

/-! ### Passes -/

section Bodies

variable {settings : Settings} {now : Instant} {key : ObjectKey} {calls : List Exchange}
  {outcome : Except Error Outcome}

/-- Of the status of a cluster, only the conditions record what came of a pass. -/
theorem Cluster.statusOrInitial_record (changed : Cluster) (now : Instant)
    (outcome : Except Error Outcome) :
    (changed.record now outcome).statusOrInitial =
      { changed.statusOrInitial with conditions := recordIn now outcome changed.conditions } := by
  cases outcome with
  | error error => rfl
  | ok good => cases good <;> rfl

theorem Cluster.roleStatuses_ne_nil {cluster : Cluster}
    (complete : cluster.spec.withDefaults = cluster.spec) (children : List Child) :
    cluster.roleStatuses children ≠ [] := by
  have declared := ClusterSpec.declaredRoles_of_normal (decide_eq_true complete)
  rw [roleStatuses, declared]
  exact nofun

/-- A pass over a cluster leaves a status that has everything that was there before. -/
theorem Cluster.Work.covers {held changed : Cluster}
    (work : held.Work settings now key calls changed outcome) :
    (changed.record now outcome).statusOrInitial.Covers held.statusOrInitial where
  conditions := work.leftBy.conditions_ne_nil now
  version := by
    rw [statusOrInitial_record]
    cases work with
    | converged complete valid tends =>
        intro deployed
        dsimp only [report, Resource.statusOrInitial, Option.getD_some]
        split
        · exact nofun
        · exact deployed
    | _ => exact id
  services := by
    rw [statusOrInitial_record]
    cases work with
    | converged complete valid tends =>
        intro _
        exact roleStatuses_ne_nil complete _
    | _ => exact id

theorem carries_of_clusterBody {held changed : Cluster}
    (goes : Trace (clusterBody settings now key held) calls (changed, outcome)) :
    (ObjectPatch.between held (changed.record now outcome)).Carries ClusterStatus.ofJson?
      ClusterStatus.toJson held.toJson held (changed.record now outcome) := by
  have work := clusterWork_of_trace goes
  apply Resource.carries_between (work.leftBy.kept now) ClusterStatus.flat_toJson
    fun _ _ => ClusterStatus.ofJson?_of_sameMembers
  intro status earlier isStatus isEarlier
  have covers := work.covers
  simp only [Resource.statusOrInitial, isStatus, isEarlier, Option.getD_some] at covers
  exact covers.names_subset

theorem carries_of_namespaceBody {held changed : Namespace}
    (goes : Trace (namespaceBody settings now key held) calls (changed, outcome)) :
    (ObjectPatch.between held (changed.record now outcome)).Carries NamespaceStatus.ofJson?
      NamespaceStatus.toJson held.toJson held (changed.record now outcome) := by
  have left := (work_of_trace goes).leftBy
  apply Resource.carries_between (left.kept now) NamespaceStatus.flat_toJson
    fun _ _ => NamespaceStatus.ofJson?_of_sameMembers
  intro status earlier isStatus isEarlier
  have stays := left.conditions_ne_nil now
  simp only [Resource.conditions, Resource.statusOrInitial, isStatus, isEarlier,
    Option.getD_some] at stays
  exact (Condition.slot_listField earlier.conditions).subset
    (Condition.slot_listField status.conditions) stays

end Bodies

namespace Subject

/-- What a pass asks for that has read its object and does not leave it alone: at its end it sends
the patch to what its body has left, with what came of that, unless the patch is empty; and the
patch carries it. -/
inductive Patches (settings : Settings) (now : Instant) : Subject → List Exchange → Prop
  | cluster {key : ObjectKey} {held changed : Cluster} {outcome : Except Error Outcome}
      {written : Option (Except Error Unit)} {body last : List Exchange}
      (goes : Trace (clusterBody settings now key held) body (changed, outcome))
      (closing : Closing (ObjectPatch.between held (changed.record now outcome)).isEmpty
        (fun answer =>
          .answered
            (.store (.patchCluster key (.between held (changed.record now outcome)))) answer)
        last written)
      (carries : (ObjectPatch.between held (changed.record now outcome)).Carries
        ClusterStatus.ofJson? ClusterStatus.toJson held.toJson held
        (changed.record now outcome)) :
      Patches settings now (.cluster key)
        (.answered (.store (.getCluster key)) (.ok (some held)) :: (body ++ last))
  | ns {key : ObjectKey} {held changed : Namespace} {outcome : Except Error Outcome}
      {written : Option (Except Error Unit)} {body last : List Exchange}
      (goes : Trace (namespaceBody settings now key held) body (changed, outcome))
      (closing : Closing (ObjectPatch.between held (changed.record now outcome)).isEmpty
        (fun answer =>
          .answered
            (.store (.patchNamespace key (.between held (changed.record now outcome)))) answer)
        last written)
      (carries : (ObjectPatch.between held (changed.record now outcome)).Carries
        NamespaceStatus.ofJson? NamespaceStatus.toJson held.toJson held
        (changed.record now outcome)) :
      Patches settings now (.ns key)
        (.answered (.store (.getNamespace key)) (.ok (some held)) :: (body ++ last))

theorem Closes.patches {settings : Settings} {now : Instant} {subject : Subject}
    {calls : List Exchange} {outcome : Except Error Outcome}
    {written : Option (Except Error Unit)}
    (closes : subject.Closes settings now calls outcome written) :
    subject.Patches settings now calls := by
  cases closes with
  | cluster alive goes closing => exact .cluster goes closing (carries_of_clusterBody goes)
  | ns goes closing => exact .ns goes closing (carries_of_namespaceBody goes)

/-- Every pass fails to read its object, or leaves it alone, or goes for a patch that is empty only
where it has left the finalizers and the status as they were, and that otherwise makes of the
document of the object just the finalizers and the status that the pass has left. The status is read
back from it, if the times in it are ones that a time stamp can be. -/
theorem patches_as_left (settings : Settings) (now : Instant) (subject : Subject)
    (calls : List Exchange) (result : Except Error Action)
    (trace : Trace (subject.program settings now) calls result) :
    (∃ error, calls = [.answered (.store subject.reading) (.error error)]) ∨
      subject.Spared calls ∨ subject.Patches settings now calls := by
  cases subject with
  | cluster key =>
      rcases clusterEnds_of_trace trace with ⟨error, unread, _⟩ | ⟨spared, _⟩ |
        ⟨outcome, written, closes, _⟩
      · exact .inl ⟨error, unread⟩
      · exact .inr (.inl spared)
      · exact .inr (.inr closes.patches)
  | ns key =>
      rcases namespaceEnds_of_trace trace with ⟨error, unread, _⟩ | ⟨spared, _⟩ |
        ⟨outcome, written, closes, _⟩
      · exact .inl ⟨error, unread⟩
      · exact .inr (.inl spared)
      · exact .inr (.inr closes.patches)

end Subject

/-- A cluster that has been deployed and was then given a port that does not exist. -/
def Cluster.deployed : Cluster :=
  { misported with
    status := some
      { conditions :=
          [{ type := Condition.readyType, status := .holds, reason := "ServicesReady",
             message := "", since := default }]
        version := some "1.24.2"
        services := [{ name := "frontend", version := "1.24.2", ready := true }] } }

/-- The pass over the cluster fails, and its patch brings the failure into the document of the
cluster, where the version and the services stay. -/
theorem Subject.patches_as_left_of_deployed :
    let key := Cluster.deployed.key
    let stored := ({} : Store).insertCluster .deployed
    let pass := follow (Servers.obliging.replies stored.2)
      ((Subject.cluster key).program {} default)
    ∃ patch answer, ∃ status : ClusterStatus,
      pass.1 = [.answered (.store (.getCluster key)) (.ok (some stored.1)),
        .answered (.store (.patchCluster key patch)) answer] ∧
      status.conditions.map Condition.type =
        [Condition.readyType, Condition.errorType, Condition.successType] ∧
      status.version = some "1.24.2" ∧ status.services.map RoleStatus.name = ["frontend"] ∧
      ∀ version, ∃ written,
        (patch.merged ClusterStatus.toJson version stored.1.toJson).field? "status" =
          some written ∧
        written.SameMembers status.toJson ∧ ClusterStatus.ofJson? written = some status := by
  intro key stored pass
  let replies := Servers.obliging.replies stored.2
  have trace : Trace ((Subject.cluster key).program {} default) pass.1 pass.2 :=
    trace_follow replies _
  rcases Subject.patches_as_left {} default _ _ _ trace with ⟨error, unread⟩ | spared | patches
  · cases unread
  · generalize isIt : pass.1 = calls at spared
    cases spared with
    | noCluster => cases isIt
    | deletedCluster deleting => cases isIt
  · generalize isIt : pass.1 = calls at patches
    cases patches with
    | cluster goes closing carries =>
        rcases List.cons.inj isIt with ⟨⟨⟩, rest⟩
        have follows := trace_follow replies (clusterBody {} default key stored.1)
        rcases goes.unique follows rest.symm with ⟨rfl, rfl, left⟩
        cases left
        have written := fun version => carries.status version _ rfl
        refine ⟨_, _, _, rfl, rfl, rfl, rfl, fun version => (written version).imp
          fun _ ⟨there, same, back⟩ => ⟨there, same, back fun condition among => ?_⟩⟩
        have since : condition.since ∈ List.replicate 3 (default : Instant) :=
          List.mem_map_of_mem (f := Condition.since) among
        rw [List.eq_of_mem_replicate since]
        exact ⟨by decide, .inl (by decide)⟩

end ClusterOperator
