import ClusterOperator.Cluster.Document
import ClusterOperator.Duration.Reader
import ClusterOperator.Proofs.Cluster.Filling
import ClusterOperator.Proofs.Json.Record

/-!
# Reading specs back

The document of a spec is read as that spec, with each span of time as its text says it. The text of
a span says it to the millisecond only, so what is read back need not be the same spec, but a spec
in which nothing is open stays one. It is taken for granted that the reader accepts the texts of the
spans.
-/

namespace ClusterOperator

/-! ## Numbers and spans of time -/

/-- The number fits the word that it is kept in. -/
def FitsWord (value : Option Int) : Prop :=
  ∀ number, value = some number → -2147483648 ≤ number ∧ number ≤ 2147483647

theorem fitsWord_setOr {fallback : Int} {value : Option Int}
    (fits : -2147483648 ≤ fallback ∧ fallback ≤ 2147483647) (fitsToo : FitsWord value) :
    FitsWord (setOr fallback value) := by
  rintro number ⟨⟩
  cases value with
  | none => exact fits
  | some given => exact fitsToo given rfl

structure RoleSpec.FitsWords (settings : RoleSpec) : Prop where
  replicas : FitsWord settings.replicas
  port : FitsWord settings.port
  membershipPort : FitsWord settings.membershipPort
  httpPort : FitsWord settings.httpPort

/-- The numbers of a spec fit the words that they are kept in. -/
def ClusterSpec.FitsWords (spec : ClusterSpec) : Prop :=
  ∀ role settings, spec.role? role = some settings → settings.FitsWords

theorem RoleSpec.FitsWords.withDefaults {settings : RoleSpec} (fits : settings.FitsWords)
    (role : Role) : (settings.withDefaults role).FitsWords where
  replicas := fitsWord_setOr (by decide) fits.replicas
  port := fitsWord_setOr (by cases role <;> decide) fits.port
  membershipPort := fitsWord_setOr (by cases role <;> decide) fits.membershipPort
  httpPort := by
    dsimp only [RoleSpec.withDefaults]
    split
    · exact fitsWord_setOr (by decide) fits.httpPort
    · exact fits.httpPort

theorem ClusterSpec.FitsWords.withDefaults {spec : ClusterSpec} (fits : spec.FitsWords) :
    spec.withDefaults.FitsWords := by
  intro role settings declared
  rw [role?_withDefaults] at declared
  cases declared
  refine RoleSpec.FitsWords.withDefaults ?_ role
  cases given : spec.role? role with
  | none => exact ⟨nofun, nofun, nofun, nofun⟩
  | some held => exact fits role held given

namespace CertificateLifetimes

def spans (lifetimes : CertificateLifetimes) : List Duration :=
  [lifetimes.rootCa, lifetimes.intermediateCas, lifetimes.client, lifetimes.frontend,
    lifetimes.internode].reduceOption

def mapSpans (change : Duration → Duration) (lifetimes : CertificateLifetimes) :
    CertificateLifetimes where
  rootCa := lifetimes.rootCa.map change
  intermediateCas := lifetimes.intermediateCas.map change
  client := lifetimes.client.map change
  frontend := lifetimes.frontend.map change
  internode := lifetimes.internode.map change

end CertificateLifetimes

namespace MutualTlsSpec

def spans (mutualTls : MutualTlsSpec) : List Duration :=
  mutualTls.refreshInterval.toList ++ mutualTls.lifetimes.toList.flatMap CertificateLifetimes.spans

def mapSpans (change : Duration → Duration) (mutualTls : MutualTlsSpec) : MutualTlsSpec :=
  { mutualTls with
    refreshInterval := mutualTls.refreshInterval.map change
    lifetimes := mutualTls.lifetimes.map (CertificateLifetimes.mapSpans change) }

end MutualTlsSpec

namespace ClusterSpec

/-- The spans of time that a spec speaks of. -/
def spans (spec : ClusterSpec) : List Duration :=
  spec.mutualTls.toList.flatMap MutualTlsSpec.spans

/-- The spec with each of its spans of time changed. -/
def mapSpans (change : Duration → Duration) (spec : ClusterSpec) : ClusterSpec :=
  { spec with mutualTls := spec.mutualTls.map (MutualTlsSpec.mapSpans change) }

end ClusterSpec

/-! ## Documents -/

/-- The span that the text of a span says. -/
def Duration.reread (span : Duration) : Duration := (read? span.toText).getD span

/-- The text of a span says a span. -/
def Duration.Legible (span : Duration) : Prop := (read? span.toText).isSome

open Json

variable {members : List (String × Json)} {name : String}

theorem Duration.ofJson?_toJson {span : Duration} (legible : span.Legible) :
    ofJson? span.toJson = some span.reread := by
  rcases Option.isSome_iff_exists.mp legible with ⟨said, isRead⟩
  change read? span.toText = some span.reread
  rw [reread, isRead]
  rfl

/-! ### Members of a spec -/

theorem optional_span (value : Option Duration)
    (found : lookup name members = value.map Duration.toJson)
    (legible : ∀ span, value = some span → span.Legible) :
    optional Duration.ofJson? name members = some (value.map Duration.reread) :=
  optional_of_lookup _ _ value found fun span is =>
    ⟨nofun, Duration.ofJson?_toJson (legible span is)⟩

theorem optional_number (value : Option Int) (found : lookup name members = value.map .integer)
    (fits : FitsWord value) : optional (signed? 32) name members = some value :=
  optional_part .integer value found fun number is => ⟨nofun, if_pos (fits number is)⟩

theorem lookup_textField (other text : String) :
    lookup name (textField other text) =
      if other = name then (if text = "" then none else some (.string text)) else none := by
  unfold textField
  split <;> simp [lookup]

/-- A text that is left out where it is empty is read as empty where it is left out. -/
theorem defaulted_text (text : String)
    (found : lookup name members = if text = "" then none else some (.string text)) :
    defaulted "" string? name members = some text := by
  split at found
  · rename_i empty
    rw [defaulted_of_absent found, empty]
  · exact defaulted_of_lookup string? _ found rfl

instance named_textField (name text : String) : Named (textField name text) [name] := by
  unfold textField
  infer_instance

/-! ### Parts of a spec -/

attribute [local simp] lookup lookup_append lookup_optionalField lookup_textField

theorem RoleSpec.ofJson?_toJson {settings : RoleSpec} (fits : settings.FitsWords) :
    ofJson? settings.toJson = some settings := by
  unfold ofJson? toJson
  rw [strictMembers?_of_named (by decide) (by decide)]
  dsimp only [Option.bind_eq_bind, Option.bind_some]
  rw [optional_number settings.replicas (by simp) fits.replicas,
    optional_number settings.port (by simp) fits.port,
    optional_number settings.membershipPort (by simp) fits.membershipPort,
    optional_number settings.httpPort (by simp) fits.httpPort]
  rfl

theorem RolesSpec.ofJson?_toJson {roles : RolesSpec}
    (fits : ∀ role settings, roles.get? role = some settings → settings.FitsWords) :
    ofJson? roles.toJson = some roles := by
  have isRead (role : Role) (settings : RoleSpec) (declared : roles.get? role = some settings) :
      settings.toJson ≠ null ∧ RoleSpec.ofJson? settings.toJson = some settings :=
    ⟨nofun, RoleSpec.ofJson?_toJson (fits role settings declared)⟩
  unfold ofJson? toJson
  rw [strictMembers?_of_named (by decide) (by decide)]
  dsimp only [Option.bind_eq_bind, Option.bind_some]
  rw [optional_part _ roles.frontend (by simp) (isRead .frontend),
    optional_part _ roles.history (by simp) (isRead .history),
    optional_part _ roles.matching (by simp) (isRead .matching),
    optional_part _ roles.worker (by simp) (isRead .worker)]
  rfl

theorem PersistenceSpec.ofJson?_toJson (persistence : PersistenceSpec) :
    ofJson? persistence.toJson = some persistence := by
  unfold ofJson? toJson
  rw [strictMembers?_of_named (by decide) (by decide)]
  dsimp only [Option.bind_eq_bind, Option.bind_some]
  rw [defaulted_of_lookup string? (.string persistence.defaultStore) (by simp) rfl,
    optional_text persistence.visibilityStore (by simp)]
  rfl

theorem CertificateLifetimes.ofJson?_toJson {lifetimes : CertificateLifetimes}
    (legible : ∀ span ∈ lifetimes.spans, span.Legible) :
    ofJson? lifetimes.toJson = some (lifetimes.mapSpans Duration.reread) := by
  have isLegible (span : Duration) (there : some span ∈ [lifetimes.rootCa,
      lifetimes.intermediateCas, lifetimes.client, lifetimes.frontend, lifetimes.internode]) :
      span.Legible :=
    legible span (List.mem_filterMap.mpr ⟨_, there, rfl⟩)
  unfold ofJson? toJson
  rw [strictMembers?_of_named (by decide) (by decide)]
  dsimp only [Option.bind_eq_bind, Option.bind_some]
  rw [optional_span lifetimes.rootCa (by simp) fun span is => isLegible span (by simp [is]),
    optional_span lifetimes.intermediateCas (by simp) fun span is => isLegible span (by simp [is]),
    optional_span lifetimes.client (by simp) fun span is => isLegible span (by simp [is]),
    optional_span lifetimes.frontend (by simp) fun span is => isLegible span (by simp [is]),
    optional_span lifetimes.internode (by simp) fun span is => isLegible span (by simp [is])]
  rfl

theorem MutualTlsSpec.ofJson?_toJson {mutualTls : MutualTlsSpec}
    (legible : ∀ span ∈ mutualTls.spans, span.Legible) :
    ofJson? mutualTls.toJson = some (mutualTls.mapSpans Duration.reread) := by
  have interval (span : Duration) (is : mutualTls.refreshInterval = some span) : span.Legible := by
    refine legible span (List.mem_append_left _ ?_)
    rw [is]
    exact List.mem_singleton_self span
  have lifetimes (lifetimes : CertificateLifetimes) (are : mutualTls.lifetimes = some lifetimes) :
      lifetimes.toJson ≠ null ∧ CertificateLifetimes.ofJson? lifetimes.toJson =
        some (lifetimes.mapSpans Duration.reread) := by
    refine ⟨nofun, CertificateLifetimes.ofJson?_toJson fun span there => ?_⟩
    refine legible span (List.mem_append_right _ ?_)
    rw [are]
    exact List.mem_flatMap.mpr ⟨lifetimes, List.mem_singleton_self _, there⟩
  unfold ofJson? toJson
  rw [strictMembers?_of_named (by decide) (by decide)]
  dsimp only [Option.bind_eq_bind, Option.bind_some]
  rw [optional_text mutualTls.provider (by simp),
    optional_span mutualTls.refreshInterval (by simp) interval,
    optional_of_lookup _ _ mutualTls.lifetimes (by simp) lifetimes]
  rfl

theorem UiSpec.ofJson?_toJson (ui : UiSpec) : ofJson? ui.toJson = some ui := by
  unfold ofJson? toJson
  rw [strictMembers?_of_named (by decide) (by decide)]
  dsimp only [Option.bind_eq_bind, Option.bind_some]
  rw [defaulted_of_lookup bool? (.bool ui.enabled) (by simp) rfl,
    defaulted_text ui.version (by simp), defaulted_text ui.image (by simp)]
  rfl

theorem AdminToolsSpec.ofJson?_toJson (tools : AdminToolsSpec) :
    ofJson? tools.toJson = some tools := by
  unfold ofJson? toJson
  rw [strictMembers?_of_named (by decide) (by decide)]
  dsimp only [Option.bind_eq_bind, Option.bind_some]
  rw [defaulted_of_lookup bool? (.bool tools.enabled) (by simp) rfl,
    defaulted_text tools.image (by simp)]
  rfl

/-! ### Specs -/

namespace ClusterSpec

/-- The document of a spec is read as the spec, with each span as its text says it. -/
theorem ofJson?_toJson {spec : ClusterSpec} (fits : spec.FitsWords)
    (legible : ∀ span ∈ spec.spans, span.Legible) :
    ofJson? spec.toJson = some (spec.mapSpans Duration.reread) := by
  have roles (roles : RolesSpec) (are : spec.services = some roles) :
      roles.toJson ≠ null ∧ RolesSpec.ofJson? roles.toJson = some roles := by
    refine ⟨nofun, RolesSpec.ofJson?_toJson fun role settings declared => ?_⟩
    refine fits role settings ?_
    unfold role?
    rw [are]
    exact declared
  have mutualTls (mutualTls : MutualTlsSpec) (is : spec.mutualTls = some mutualTls) :
      mutualTls.toJson ≠ null ∧ MutualTlsSpec.ofJson? mutualTls.toJson =
        some (mutualTls.mapSpans Duration.reread) := by
    refine ⟨nofun, MutualTlsSpec.ofJson?_toJson fun span there => legible span ?_⟩
    unfold spans
    rw [is]
    exact List.mem_flatMap.mpr ⟨mutualTls, List.mem_singleton_self _, there⟩
  unfold ofJson? toJson
  rw [strictMembers?_of_named (by decide) (by decide)]
  dsimp only [Option.bind_eq_bind, Option.bind_some]
  rw [defaulted_text spec.version (by simp), defaulted_text spec.image (by simp),
    optional_part _ spec.services (by simp) roles,
    defaulted_of_lookup PersistenceSpec.ofJson? spec.persistence.toJson (by simp)
      spec.persistence.ofJson?_toJson,
    optional_of_lookup _ _ spec.mutualTls (by simp) mutualTls,
    optional_part UiSpec.toJson spec.ui (by simp) fun ui _ => ⟨nofun, ui.ofJson?_toJson⟩,
    optional_part AdminToolsSpec.toJson spec.adminTools (by simp)
      fun tools _ => ⟨nofun, tools.ofJson?_toJson⟩]
  rfl

end ClusterSpec

/-! ### Specs that are filled in -/

namespace Duration

/-- The text of a span that is filled in says just that span. -/
theorem read?_toText_of_default :
    ∀ span ∈ [ofHours 1, ofHours 8766, ofHours 43830, ofHours 87600],
      read? span.toText = some span := by
  decide +kernel

variable {fallback : Duration} {value : Option Duration}

theorem legible_setOr (said : read? fallback.toText = some fallback)
    (legible : ∀ span, value = some span → span.Legible) (span : Duration)
    (is : setOr fallback value = some span) : span.Legible := by
  cases value with
  | none =>
      cases is
      exact Option.isSome_iff_exists.mpr ⟨_, said⟩
  | some given =>
      cases is
      exact legible given rfl

theorem map_reread_setOr (said : read? fallback.toText = some fallback) :
    (setOr fallback value).map reread = setOr fallback (value.map reread) := by
  cases value with
  | none =>
      change some ((read? fallback.toText).getD fallback) = some fallback
      rw [said]
      rfl
  | some given => rfl

end Duration

namespace CertificateLifetimes

variable {lifetimes : CertificateLifetimes}

theorem legible_withDefaults (legible : ∀ span ∈ lifetimes.spans, span.Legible) :
    ∀ span ∈ lifetimes.withDefaults.spans, span.Legible := by
  have filled {fallback span : Duration} {value : Option Duration}
      (isDefault : fallback ∈ [Duration.ofHours 1, .ofHours 8766, .ofHours 43830, .ofHours 87600])
      (among : value ∈ [lifetimes.rootCa, lifetimes.intermediateCas, lifetimes.client,
        lifetimes.frontend, lifetimes.internode])
      (is : some span = setOr fallback value) : span.Legible := by
    refine Duration.legible_setOr (Duration.read?_toText_of_default _ isDefault) ?_ span is.symm
    exact fun held given => legible held (List.mem_filterMap.mpr ⟨value, among, given⟩)
  intro span there
  rcases List.mem_filterMap.mp there with ⟨_, there, rfl⟩
  simp only [withDefaults, List.mem_cons, List.not_mem_nil, or_false] at there
  rcases there with is | is | is | is | is
  · exact filled (by simp) (by simp) is
  · exact filled (by simp) (by simp) is
  · exact filled (by simp) (by simp) is
  · exact filled (by simp) (by simp) is
  · exact filled (by simp) (by simp) is

theorem mapSpans_withDefaults (lifetimes : CertificateLifetimes) :
    lifetimes.withDefaults.mapSpans Duration.reread =
      (lifetimes.mapSpans Duration.reread).withDefaults := by
  have said := Duration.read?_toText_of_default
  simp only [withDefaults, mapSpans, Duration.map_reread_setOr (said (.ofHours 87600) (by simp)),
    Duration.map_reread_setOr (said (.ofHours 43830) (by simp)),
    Duration.map_reread_setOr (said (.ofHours 8766) (by simp))]

end CertificateLifetimes

namespace MutualTlsSpec

variable {mutualTls : MutualTlsSpec}

theorem legible_withDefaults (legible : ∀ span ∈ mutualTls.spans, span.Legible) :
    ∀ span ∈ mutualTls.withDefaults.spans, span.Legible := by
  unfold withDefaults
  split
  · intro span there
    rcases List.mem_append.mp there with interval | lifetime
    · refine Duration.legible_setOr (Duration.read?_toText_of_default (.ofHours 1) (by simp))
        (fun held is => ?_) span (Option.mem_toList.mp interval)
      exact legible held (List.mem_append_left _ (Option.mem_toList.mpr is))
    · have given : ∀ span ∈ (mutualTls.lifetimes.getD {}).spans, span.Legible := by
        cases are : mutualTls.lifetimes with
        | none => exact List.forall_mem_nil _
        | some lifetimes =>
            intro span there
            apply legible span (List.mem_append_right _ ?_)
            rw [are]
            exact List.mem_flatMap.mpr ⟨lifetimes, List.mem_singleton_self _, there⟩
      rcases List.mem_flatMap.mp lifetime with ⟨filled, is, there⟩
      cases List.mem_singleton.mp is
      exact CertificateLifetimes.legible_withDefaults given span there
  · exact legible

theorem mapSpans_withDefaults (mutualTls : MutualTlsSpec) :
    mutualTls.withDefaults.mapSpans Duration.reread =
      (mutualTls.mapSpans Duration.reread).withDefaults := by
  have said := Duration.read?_toText_of_default (.ofHours 1) (by simp)
  have lifetimes : (mutualTls.lifetimes.getD {}).mapSpans Duration.reread =
      (mutualTls.lifetimes.map (CertificateLifetimes.mapSpans Duration.reread)).getD {} := by
    cases mutualTls.lifetimes <;> rfl
  have managed : (mutualTls.mapSpans Duration.reread).isManaged = mutualTls.isManaged := rfl
  unfold withDefaults
  rw [managed]
  split
  · simp only [mapSpans, Duration.map_reread_setOr said, Option.map_some,
      CertificateLifetimes.mapSpans_withDefaults, lifetimes]
  · rfl

end MutualTlsSpec

namespace ClusterSpec

variable {spec : ClusterSpec}

theorem legible_withDefaults (legible : ∀ span ∈ spec.spans, span.Legible) :
    ∀ span ∈ spec.withDefaults.spans, span.Legible := by
  intro span there
  rcases List.mem_flatMap.mp there with ⟨filled, is, there⟩
  rcases Option.map_eq_some_iff.mp (Option.mem_toList.mp is) with ⟨mutualTls, given, rfl⟩
  refine MutualTlsSpec.legible_withDefaults (fun held among => legible held ?_) span there
  exact List.mem_flatMap.mpr ⟨mutualTls, Option.mem_toList.mpr given, among⟩

/-- A spec with everything filled in is read back as it is, but for the user's own spans, each of
which is read as its text says it. -/
theorem mapSpans_withDefaults (spec : ClusterSpec) :
    spec.withDefaults.mapSpans Duration.reread =
      (spec.mapSpans Duration.reread).withDefaults := by
  have mutualTls : (spec.mutualTls.map MutualTlsSpec.withDefaults).map
        (MutualTlsSpec.mapSpans Duration.reread) =
      (spec.mutualTls.map (MutualTlsSpec.mapSpans Duration.reread)).map
        MutualTlsSpec.withDefaults := by
    cases spec.mutualTls with
    | none => rfl
    | some given => exact congrArg some given.mapSpans_withDefaults
  simp only [withDefaults, mapSpans, mutualTls]

theorem ofJson?_withDefaults (fits : spec.FitsWords)
    (legible : ∀ span ∈ spec.spans, span.Legible) :
    ofJson? spec.withDefaults.toJson = some (spec.withDefaults.mapSpans Duration.reread) :=
  ofJson?_toJson fits.withDefaults (legible_withDefaults legible)

end ClusterSpec

end ClusterOperator
