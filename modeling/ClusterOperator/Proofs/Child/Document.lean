import ClusterOperator.Child.Document
import ClusterOperator.Proofs.Instant.Text
import ClusterOperator.Proofs.Object.Reading
import ClusterOperator.SortedMap.Lemmas

/-!
# Reading children back

A child that is sent to the API server in the place of another one is written out in full. Its
document is read as that child, so nothing that was read is lost on the way, also where nobody here
knows what it means. Only times of deletion are cut to whole seconds.
-/

namespace ClusterOperator

open Json

/-! ## Reading again -/

namespace Json

theorem exists_of_listOf? {α : Type} {read : Json → Option α} {json : Json} {values : List α}
    {value : α} (isRead : listOf? read json = some values) (there : value ∈ values) :
    ∃ item, read item = some value := by
  cases json with
  | array items =>
      change items.mapM read = some values at isRead
      induction items generalizing values with
      | nil =>
          cases isRead
          cases there
      | cons item rest ih =>
          rw [List.mapM_cons] at isRead
          simp only [Option.bind_eq_bind, Option.bind_eq_some_iff, Option.pure_def,
            Option.some.injEq] at isRead
          rcases isRead with ⟨first, isFirst, others, are, rfl⟩
          rcases List.mem_cons.mp there with rfl | there
          · exact ⟨item, isFirst⟩
          · exact ih there are
  | _ => cases isRead

variable {α : Type} {name : String} {members written fields : List (String × Json)}
  {own names : List String}

/-- Whatever has been read is written as something that is read as the same, but for a change. It is
not written as `null`, which would mean that it is unset, unless it has been read from `null`. -/
structure Rereads (read : Json → Option α) (write : α → Json) (change : α → α) : Prop where
  something : ∀ {json value}, json ≠ null → read json = some value → write value ≠ null
  again : ∀ {json value}, read json = some value → read (write value) = some (change value)

namespace Rereads

variable {read : Json → Option α} {write : α → Json} {change : α → α}

theorem optional {value : Option α} (rereads : Rereads read write change)
    (isRead : Json.optional read name members = some value)
    (found : lookup name written = value.map write) :
    Json.optional read name written = some (value.map change) := by
  apply optional_of_lookup write change value found
  intro held is
  rcases optional_cases isRead with ⟨unset, _⟩ | ⟨json, part, _, something, isPart, set⟩
  · cases unset.symm.trans is
  · cases set.symm.trans is
    exact ⟨rereads.something something isPart, rereads.again isPart⟩

theorem orElse {fallback value : α} (rereads : Rereads read write change)
    (plain : write fallback ≠ null ∧ read (write fallback) = some (change fallback))
    (isRead : Json.orElse fallback read name members = some value)
    (found : lookup name written = some (write value)) :
    Json.orElse fallback read name written = some (change value) := by
  rcases Option.map_eq_some_iff.mp isRead with ⟨part, isPart, rfl⟩
  have back : write (part.getD fallback) ≠ null ∧
      read (write (part.getD fallback)) = some (change (part.getD fallback)) := by
    rcases optional_cases isPart with ⟨rfl, _⟩ | ⟨json, held, _, something, isHeld, rfl⟩
    · exact plain
    · exact ⟨rereads.something something isHeld, rereads.again isHeld⟩
  have isThere := optional_of_lookup write change (some (part.getD fallback)) found
    fun _ is => Option.some.inj is ▸ back
  simp [Json.orElse, isThere]

/-- A member that is read as it was. -/
theorem optional_self {value : Option α} (rereads : Rereads read write id)
    (isRead : Json.optional read name members = some value)
    (found : lookup name written = value.map write) :
    Json.optional read name written = some value := by
  rw [rereads.optional isRead found, Option.map_id, id]

theorem list (rereads : Rereads read write id) :
    Rereads (listOf? read) (fun items => .array (items.map write)) id where
  something _ _ := nofun
  again {json values} isRead := by
    apply listOf?_map
    intro value there
    rcases exists_of_listOf? isRead there with ⟨item, isItem⟩
    exact rereads.again isItem

end Rereads

theorem rereads_text : Rereads string? .string id where
  something _ _ := nofun
  again _ := rfl

theorem rereads_bool : Rereads bool? .bool id where
  something _ _ := nofun
  again _ := rfl

theorem rereads_anything : Rereads some id id where
  something something isRead := Option.some.inj isRead ▸ something
  again _ := rfl

theorem rereads_signed (bits : Nat) : Rereads (signed? bits) .integer id where
  something _ _ := nofun
  again {json number} isRead := by
    cases json with
    | integer held =>
        rcases Option.ite_none_right_eq_some.mp isRead with ⟨_, same⟩
        cases same
        exact isRead
    | _ => cases isRead

theorem rereads_textList : Rereads (listOf? string?) ofTextList id := rereads_text.list

theorem rereads_texts : Rereads (mapOf? string?) ofTexts id where
  something _ _ := nofun
  again {_ map} _ := by
    have entries (entries : List (String × String)) :
        (entries.map fun entry => (entry.1, string entry.2)).mapM
          (fun field => (string? field.2).map (field.1, ·)) = some entries := by
      induction entries with
      | nil => rfl
      | cons entry rest ih =>
          rw [List.map_cons, List.mapM_cons, ih]
          rfl
    have same : SortedMap.ofList map.entries = map := by
      apply SortedMap.ext_get?
      intro key
      exact SortedMap.get?_ofList map.nodup_keys key
    simp only [mapOf?, ofTexts, entries, Option.bind_eq_bind, Option.bind_some, same]
    rfl

/-! ### Records -/

variable {value : α} {readMembers : List (String × Json) → Option α}

/-- A record is read as something if it is so from all lists in which its members are found. -/
theorem reread_record [Named fields own] (distinct : own.Nodup)
    (isRead : ∀ found, (∀ name, lookup name found = lookup name fields) →
      readMembers found = some value) :
    (object fields).lenientMembers?.bind readMembers = some value :=
  isRead fields.reverse fun _ => lookup_reverse (Named.distinct distinct)

/-- The same where the rest of the record is kept as it is. -/
theorem reread_kept [named : Named fields own] (distinct : (own ++ names).Nodup)
    (isRead : ∀ found, (∀ name ∈ own, lookup name found = lookup name fields) →
      kept names found = kept names members → readMembers found = some value) :
    (object (fields ++ kept names (kept names members))).lenientMembers?.bind readMembers =
      some value := by
  rw [kept_kept]
  apply reread_record distinct
  intro found same
  have apart {name : String} (isOwn : name ∈ own) (isKept : name ∈ names) : False :=
    (List.nodup_append.mp distinct).2.2 name isOwn name isKept rfl
  apply isRead
  · intro name isOwn
    rw [same, lookup_append, lookup_kept_of_not_mem (apart isOwn), Option.or_none]
  · rw [← kept_kept names members]
    apply kept_congr
    intro name isKept
    have absent : lookup name fields = none := by
      apply lookup_eq_none_iff.mpr
      intro there
      exact apart (named.ordered.subset there) isKept
    rw [same, lookup_append, absent, Option.none_or]

end Json

theorem expectText_of_lookup {name expected : String} {members : List (String × Json)}
    (found : lookup name members = some (.string expected)) :
    expectText name expected members = some () := by
  simp [expectText, found]

attribute [local simp] lookup lookup_append lookup_optionalField

/-! ## Metadata -/

namespace Instant

/-- The time without its fraction of a second. -/
def inSeconds (time : Instant) : Instant :=
  { time with nanos := time.nanos / 1_000_000_000 * 1_000_000_000 }

theorem toText_inSeconds (time : Instant) : time.inSeconds.toText = time.toSecondsText := by
  have noFraction : time.inSeconds.nanos % 1_000_000_000 = 0 := Nat.mul_mod_left _ _
  have sameLeap : time.inSeconds.nanos < 1_000_000_000 ↔ time.nanos < 1_000_000_000 := by
    simp only [inSeconds]
    omega
  have sameWhole : time.inSeconds.wholeText = time.wholeText := by
    simp only [wholeText, sameLeap]
    rfl
  rw [toText, toSecondsText, sameWhole, noFraction, fractionText, if_pos rfl, String.append_empty]

theorem Representable.inSeconds {time : Instant} (representable : time.Representable) :
    time.inSeconds.Representable where
  year := representable.year
  nanos := by
    rcases representable.nanos with small | ⟨last, small⟩
    · left
      change time.nanos / 1_000_000_000 * 1_000_000_000 < 1_000_000_000
      omega
    · right
      change time.seconds.fmod 60 = 59 ∧
        time.nanos / 1_000_000_000 * 1_000_000_000 < 2_000_000_000
      constructor
      · exact last
      · omega

theorem rereads : Rereads ofJson? toSecondsJson inSeconds where
  something _ _ := nofun
  again {_ time} isRead := by
    rcases Option.bind_eq_some_iff.mp isRead with ⟨text, _, isTime⟩
    have representable := representable_of_read (read?_eq_some_iff.mp isTime)
    rw [Instant.ofJson?, toSecondsJson, string?, Option.bind_some, ← toText_inSeconds]
    exact read?_toText_iff.mpr representable.inSeconds

end Instant

theorem OwnerReference.rereads : Rereads ofJson? toJson id where
  something _ _ := nofun
  again isRead := by
    simp only [ofJson?, Option.bind_eq_bind, Option.bind_eq_some_iff, Option.pure_def,
      Option.some.injEq] at isRead
    rcases isRead with ⟨members, _, apiVersion, isApiVersion, kind, isKind, name, isName, uid,
      isUid, controller, isController, blocks, isBlocks, rfl⟩
    unfold ofJson? toJson
    apply reread_record (by decide)
    intro written found
    rw [rereads_text.orElse ⟨nofun, rfl⟩ isApiVersion (by simp [found]),
      rereads_text.orElse ⟨nofun, rfl⟩ isKind (by simp [found]),
      rereads_text.orElse ⟨nofun, rfl⟩ isName (by simp [found]),
      rereads_text.orElse ⟨nofun, rfl⟩ isUid (by simp [found]),
      rereads_bool.optional_self isController (by simp [found]),
      rereads_bool.optional_self isBlocks (by simp [found])]
    rfl

/-- The metadata with the time of deletion in whole seconds. -/
def Metadata.inSeconds (metadata : Metadata) : Metadata :=
  { metadata with deletionTimestamp := metadata.deletionTimestamp.map Instant.inSeconds }

theorem Metadata.rereads : Rereads ofJson? toJson inSeconds where
  something _ _ := nofun
  again isRead := by
    simp only [ofJson?, Option.bind_eq_bind, Option.bind_eq_some_iff, Option.pure_def,
      Option.some.injEq] at isRead
    rcases isRead with ⟨members, _, name, isName, generateName, isGenerateName, ns, isNs, uid,
      isUid, version, isVersion, generation, isGeneration, labels, isLabels, annotations,
      isAnnotations, finalizers, isFinalizers, owners, isOwners, deletion, isDeletion, rfl⟩
    unfold ofJson? toJson
    apply reread_kept (by decide)
    intro written found rest
    rw [rereads_text.optional_self isName (by simp [found]),
      rereads_text.optional_self isGenerateName (by simp [found]),
      rereads_text.optional_self isNs (by simp [found]),
      rereads_text.optional_self isUid (by simp [found]),
      rereads_text.optional_self isVersion (by simp [found]),
      (rereads_signed 64).optional_self isGeneration (by simp [found]),
      rereads_texts.optional_self isLabels (by simp [found]),
      rereads_texts.optional_self isAnnotations (by simp [found]),
      rereads_textList.optional_self isFinalizers (by simp [found]),
      OwnerReference.rereads.list.optional_self isOwners (by simp [found]),
      Instant.rereads.optional isDeletion (by simp [found]),
      rest]
    rfl

/-! ## Services -/

theorem PortTarget.rereads : Rereads ofJson? toJson id where
  something {_ target} _ _ := by cases target <;> nofun
  again {json target} isRead := by
    cases target with
    | name port => rfl
    | number port =>
        have isNumber : json.signed? 32 = some port := by
          cases json with
          | integer held =>
              rcases Option.map_eq_some_iff.mp isRead with ⟨_, isNumber, same⟩
              cases same
              exact isNumber
          | _ => cases isRead
        exact Option.map_eq_some_iff.mpr ⟨port, (rereads_signed 32).again isNumber, rfl⟩

theorem ServicePort.rereads : Rereads ofJson? toJson id where
  something _ _ := nofun
  again isRead := by
    simp only [ofJson?, Option.bind_eq_bind, Option.bind_eq_some_iff, Option.pure_def,
      Option.some.injEq] at isRead
    rcases isRead with ⟨members, _, name, isName, protocol, isProtocol, number, isNumber, target,
      isTarget, node, isNode, rfl⟩
    unfold ofJson? toJson
    apply reread_kept (by decide)
    intro written found rest
    rw [rereads_text.optional_self isName (by simp [found]),
      rereads_text.optional_self isProtocol (by simp [found]),
      (rereads_signed 32).orElse ⟨nofun, rfl⟩ isNumber (by simp [found]),
      PortTarget.rereads.optional_self isTarget (by simp [found]),
      (rereads_signed 32).optional_self isNode (by simp [found]),
      rest]
    rfl

theorem ServiceSpec.rereads : Rereads ofJson? toJson id where
  something _ _ := nofun
  again isRead := by
    simp only [ofJson?, Option.bind_eq_bind, Option.bind_eq_some_iff, Option.pure_def,
      Option.some.injEq] at isRead
    rcases isRead with ⟨members, _, type, isType, ip, isIp, selector, isSelector, ports, isPorts,
      publishes, isPublishes, affinity, isAffinity, rfl⟩
    unfold ofJson? toJson
    apply reread_kept (by decide)
    intro written found rest
    rw [rereads_text.optional_self isType (by simp [found]),
      rereads_text.optional_self isIp (by simp [found]),
      rereads_texts.optional_self isSelector (by simp [found]),
      ServicePort.rereads.list.optional_self isPorts (by simp [found]),
      rereads_bool.optional_self isPublishes (by simp [found]),
      rereads_text.optional_self isAffinity (by simp [found]),
      rest]
    rfl

/-- The service with the time of its deletion in whole seconds. -/
def Service.inSeconds (service : Service) : Service :=
  { service with metadata := service.metadata.inSeconds }

theorem Service.rereads : Rereads ofJson? toJson inSeconds where
  something _ _ := nofun
  again isRead := by
    simp only [ofJson?, Option.bind_eq_bind, Option.bind_eq_some_iff, Option.pure_def,
      Option.some.injEq] at isRead
    rcases isRead with ⟨members, _, _, _, _, _, metadata, isMetadata, spec, isSpec, status,
      isStatus, rfl⟩
    unfold ofJson? toJson
    apply reread_record (by decide)
    intro written found
    rw [expectText_of_lookup (by simp [found]),
      expectText_of_lookup (by simp [found]),
      Metadata.rereads.orElse ⟨nofun, rfl⟩ isMetadata (by simp [found]),
      ServiceSpec.rereads.optional_self isSpec (by simp [found]),
      rereads_anything.optional_self isStatus (by simp [found])]
    rfl

/-! ## Deployments -/

theorem FieldReference.rereads : Rereads ofJson? toJson id where
  something _ _ := nofun
  again isRead := by
    simp only [ofJson?, Option.bind_eq_bind, Option.bind_eq_some_iff, Option.pure_def,
      Option.some.injEq] at isRead
    rcases isRead with ⟨members, _, apiVersion, isApiVersion, path, isPath, rfl⟩
    unfold ofJson? toJson
    apply reread_record (by decide)
    intro written found
    rw [rereads_text.optional_self isApiVersion (by simp [found]),
      rereads_text.orElse ⟨nofun, rfl⟩ isPath (by simp [found])]
    rfl

theorem EnvSource.rereads : Rereads ofJson? toJson id where
  something _ _ := nofun
  again isRead := by
    simp only [ofJson?, Option.bind_eq_bind, Option.bind_eq_some_iff, Option.pure_def,
      Option.some.injEq] at isRead
    rcases isRead with ⟨members, _, field, isField, rfl⟩
    unfold ofJson? toJson
    apply reread_kept (by decide)
    intro written found rest
    rw [FieldReference.rereads.optional_self isField (by simp [found]),
      rest]
    rfl

theorem EnvVar.rereads : Rereads ofJson? toJson id where
  something _ _ := nofun
  again isRead := by
    simp only [ofJson?, Option.bind_eq_bind, Option.bind_eq_some_iff, Option.pure_def,
      Option.some.injEq] at isRead
    rcases isRead with ⟨members, _, name, isName, value, isValue, source, isSource, rfl⟩
    unfold ofJson? toJson
    apply reread_record (by decide)
    intro written found
    rw [rereads_text.orElse ⟨nofun, rfl⟩ isName (by simp [found]),
      rereads_text.optional_self isValue (by simp [found]),
      EnvSource.rereads.optional_self isSource (by simp [found])]
    rfl

theorem ContainerPort.rereads : Rereads ofJson? toJson id where
  something _ _ := nofun
  again isRead := by
    simp only [ofJson?, Option.bind_eq_bind, Option.bind_eq_some_iff, Option.pure_def,
      Option.some.injEq] at isRead
    rcases isRead with ⟨members, _, name, isName, port, isPort, protocol, isProtocol, rfl⟩
    unfold ofJson? toJson
    apply reread_kept (by decide)
    intro written found rest
    rw [rereads_text.optional_self isName (by simp [found]),
      (rereads_signed 32).orElse ⟨nofun, rfl⟩ isPort (by simp [found]),
      rereads_text.optional_self isProtocol (by simp [found]),
      rest]
    rfl

theorem Container.rereads : Rereads ofJson? toJson id where
  something _ _ := nofun
  again isRead := by
    simp only [ofJson?, Option.bind_eq_bind, Option.bind_eq_some_iff, Option.pure_def,
      Option.some.injEq] at isRead
    rcases isRead with ⟨members, _, name, isName, image, isImage, policy, isPolicy, args, isArgs,
      env, isEnv, ports, isPorts, rfl⟩
    unfold ofJson? toJson
    apply reread_kept (by decide)
    intro written found rest
    rw [rereads_text.orElse ⟨nofun, rfl⟩ isName (by simp [found]),
      rereads_text.optional_self isImage (by simp [found]),
      rereads_text.optional_self isPolicy (by simp [found]),
      rereads_textList.optional_self isArgs (by simp [found]),
      EnvVar.rereads.list.optional_self isEnv (by simp [found]),
      ContainerPort.rereads.list.optional_self isPorts (by simp [found]),
      rest]
    rfl

theorem PodSpec.rereads : Rereads ofJson? toJson id where
  something _ _ := nofun
  again isRead := by
    simp only [ofJson?, Option.bind_eq_bind, Option.bind_eq_some_iff, Option.pure_def,
      Option.some.injEq] at isRead
    rcases isRead with ⟨members, _, restart, isRestart, dns, isDns, containers, isContainers, rfl⟩
    unfold ofJson? toJson
    apply reread_kept (by decide)
    intro written found rest
    rw [rereads_text.optional_self isRestart (by simp [found]),
      rereads_text.optional_self isDns (by simp [found]),
      Container.rereads.list.orElse ⟨nofun, rfl⟩ isContainers (by simp [found]),
      rest]
    rfl

/-- The template with a time of deletion, if it has one, in whole seconds. -/
def PodTemplate.inSeconds (template : PodTemplate) : PodTemplate :=
  { template with metadata := template.metadata.map Metadata.inSeconds }

theorem PodTemplate.rereads : Rereads ofJson? toJson inSeconds where
  something _ _ := nofun
  again isRead := by
    simp only [ofJson?, Option.bind_eq_bind, Option.bind_eq_some_iff, Option.pure_def,
      Option.some.injEq] at isRead
    rcases isRead with ⟨members, _, metadata, isMetadata, spec, isSpec, rfl⟩
    unfold ofJson? toJson
    apply reread_record (by decide)
    intro written found
    rw [Metadata.rereads.optional isMetadata (by simp [found]),
      PodSpec.rereads.optional_self isSpec (by simp [found])]
    rfl

theorem LabelSelector.rereads : Rereads ofJson? toJson id where
  something _ _ := nofun
  again isRead := by
    simp only [ofJson?, Option.bind_eq_bind, Option.bind_eq_some_iff, Option.pure_def,
      Option.some.injEq] at isRead
    rcases isRead with ⟨members, _, labels, isLabels, rfl⟩
    unfold ofJson? toJson
    apply reread_kept (by decide)
    intro written found rest
    rw [rereads_texts.optional_self isLabels (by simp [found]),
      rest]
    rfl

theorem DeploymentStrategy.rereads : Rereads ofJson? toJson id where
  something _ _ := nofun
  again isRead := by
    simp only [ofJson?, Option.bind_eq_bind, Option.bind_eq_some_iff, Option.pure_def,
      Option.some.injEq] at isRead
    rcases isRead with ⟨members, _, type, isType, rfl⟩
    unfold ofJson? toJson
    apply reread_kept (by decide)
    intro written found rest
    rw [rereads_text.optional_self isType (by simp [found]),
      rest]
    rfl

/-- What is asked of a deployment, with the times of its template in whole seconds. -/
def DeploymentSpec.inSeconds (spec : DeploymentSpec) : DeploymentSpec :=
  { spec with template := spec.template.inSeconds }

theorem DeploymentSpec.rereads : Rereads ofJson? toJson inSeconds where
  something _ _ := nofun
  again isRead := by
    simp only [ofJson?, Option.bind_eq_bind, Option.bind_eq_some_iff, Option.pure_def,
      Option.some.injEq] at isRead
    rcases isRead with ⟨members, _, replicas, isReplicas, selector, isSelector, history, isHistory,
      deadline, isDeadline, strategy, isStrategy, template, isTemplate, rfl⟩
    unfold ofJson? toJson
    apply reread_kept (by decide)
    intro written found rest
    rw [(rereads_signed 32).optional_self isReplicas (by simp [found]),
      LabelSelector.rereads.orElse ⟨nofun, rfl⟩ isSelector (by simp [found]),
      (rereads_signed 32).optional_self isHistory (by simp [found]),
      (rereads_signed 32).optional_self isDeadline (by simp [found]),
      DeploymentStrategy.rereads.optional_self isStrategy (by simp [found]),
      PodTemplate.rereads.orElse ⟨nofun, rfl⟩ isTemplate (by simp [found]),
      rest]
    rfl

theorem DeploymentStatus.rereads : Rereads ofJson? toJson id where
  something _ _ := nofun
  again isRead := by
    simp only [ofJson?, Option.bind_eq_bind, Option.bind_eq_some_iff, Option.pure_def,
      Option.some.injEq] at isRead
    rcases isRead with ⟨members, _, replicas, isReplicas, ready, isReady, observed, isObserved, rfl⟩
    unfold ofJson? toJson
    apply reread_kept (by decide)
    intro written found rest
    rw [(rereads_signed 32).optional_self isReplicas (by simp [found]),
      (rereads_signed 32).optional_self isReady (by simp [found]),
      (rereads_signed 64).optional_self isObserved (by simp [found]),
      rest]
    rfl

/-- The deployment with all its times in whole seconds. -/
def Deployment.inSeconds (deployment : Deployment) : Deployment :=
  { deployment with
    metadata := deployment.metadata.inSeconds
    spec := deployment.spec.map DeploymentSpec.inSeconds }

theorem Deployment.rereads : Rereads ofJson? toJson inSeconds where
  something _ _ := nofun
  again isRead := by
    simp only [ofJson?, Option.bind_eq_bind, Option.bind_eq_some_iff, Option.pure_def,
      Option.some.injEq] at isRead
    rcases isRead with ⟨members, _, _, _, _, _, metadata, isMetadata, spec, isSpec, status,
      isStatus, rfl⟩
    unfold ofJson? toJson
    apply reread_record (by decide)
    intro written found
    rw [expectText_of_lookup (by simp [found]),
      expectText_of_lookup (by simp [found]),
      Metadata.rereads.orElse ⟨nofun, rfl⟩ isMetadata (by simp [found]),
      DeploymentSpec.rereads.optional isSpec (by simp [found]),
      DeploymentStatus.rereads.optional_self isStatus (by simp [found])]
    rfl

/-! ## Children -/

namespace Child

/-- The child with all its times in whole seconds. -/
def inSeconds : Child → Child
  | service held => service held.inSeconds
  | deployment held => deployment held.inSeconds

/-- A child that was read from a document and is written out again is read as the same child. -/
theorem rereads (kind : ChildKind) : Rereads (ofJson? kind) toJson inSeconds where
  something {_ child} _ _ := by cases child <;> nofun
  again isRead := by
    cases kind with
    | service =>
        rcases Option.map_eq_some_iff.mp isRead with ⟨held, isHeld, rfl⟩
        exact Option.map_eq_some_iff.mpr ⟨_, Service.rereads.again isHeld, rfl⟩
    | deployment =>
        rcases Option.map_eq_some_iff.mp isRead with ⟨held, isHeld, rfl⟩
        exact Option.map_eq_some_iff.mpr ⟨_, Deployment.rereads.again isHeld, rfl⟩

end Child

end ClusterOperator
