import Mathlib.Data.List.Nodup
import Mathlib.Data.List.Pairwise
import ClusterOperator.Cluster.Validation
import ClusterOperator.Proofs.Cluster.Filling

/-!
# Valid specs

A spec is accepted where every declared service is valid. Defaults are chosen field by field, with
no regard to the other fields: a default may be the number that another field of the service is set
to. This is the only way in which a spec that is valid becomes invalid when it is filled in.
-/

namespace ClusterOperator

namespace PortField

/-- The fields in the order in which they are looked at. -/
def all : List PortField := [port, membershipPort, httpPort]

theorem mem_all (field : PortField) : field ∈ all := by cases field <;> decide

theorem nodup_all : all.Nodup := by decide

end PortField

/-! ### Services -/

namespace RoleSpec

variable {settings : RoleSpec} {role : Role}

/-- The port that a field is set to. -/
def portIn (settings : RoleSpec) : PortField → Option Int
  | .port => settings.port
  | .membershipPort => settings.membershipPort
  | .httpPort => settings.httpPort

/-- The settings of a service are valid. -/
structure Valid (settings : RoleSpec) : Prop where
  inRange : ∀ field number, settings.portIn field = some number → 1 ≤ number ∧ number ≤ 65535
  /-- A number stands in one field at most. -/
  distinct : ∀ field other number, settings.portIn field = some number →
    settings.portIn other = some number → field = other
  replicas : ∀ count, settings.replicas = some count → 0 ≤ count

/-- The numbers that ports are set to. -/
def numbers (ports : List (PortField × Option Int)) : List Int := ports.filterMap Prod.snd

/-- Ports give no problem if they are in range and differ, from one another and from those that come
before them. -/
theorem portProblem?_eq_none_iff {seen : List (PortField × Int)}
    {ports : List (PortField × Option Int)} :
    portProblem? role seen ports = none ↔
      (∀ number ∈ numbers ports, 1 ≤ number ∧ number ≤ 65535) ∧ (numbers ports).Nodup ∧
        (seen.map Prod.snd).Disjoint (numbers ports) := by
  induction ports generalizing seen with
  | nil => simp [portProblem?, numbers]
  | cons entry rest ih =>
      rcases entry with ⟨field, _ | port⟩
      · exact ih
      have cons : numbers ((field, some port) :: rest) = port :: numbers rest := rfl
      -- a port that is seen is one that the ports after it have to differ from
      rw [portProblem?, cons, List.forall_mem_cons, List.nodup_cons, List.disjoint_cons_right]
      by_cases inRange : 1 ≤ port ∧ port ≤ 65535
      · rw [if_pos inRange]
        cases found : seen.find? fun earlier => earlier.2 = port with
        | some earlier =>
            have same : earlier.2 = port := by simpa using List.find?_some found
            have taken : port ∈ seen.map Prod.snd :=
              List.mem_map.mpr ⟨earlier, List.mem_of_find?_eq_some found, same⟩
            exact ⟨nofun, fun valid => (valid.2.2.1 taken).elim⟩
        | none =>
            have fresh : port ∉ seen.map Prod.snd := by
              intro taken
              rcases List.mem_map.mp taken with ⟨earlier, there, same⟩
              exact List.find?_eq_none.mp found earlier there (decide_eq_true same)
            rw [ih, List.map_append, List.disjoint_append_left, List.map_singleton,
              List.singleton_disjoint]
            tauto
      · rw [if_neg inRange]
        exact ⟨nofun, fun valid => (inRange valid.1.1).elim⟩

theorem mem_numbers_iff {number : Int} :
    number ∈ numbers settings.ports ↔ ∃ field, settings.portIn field = some number := by
  have view : numbers settings.ports = PortField.all.filterMap settings.portIn := rfl
  rw [view, List.mem_filterMap]
  exact exists_congr fun field => and_iff_right (PortField.mem_all field)

theorem nodup_numbers_iff :
    (numbers settings.ports).Nodup ↔
      ∀ field other number, settings.portIn field = some number →
        settings.portIn other = some number → field = other := by
  have view : numbers settings.ports = PortField.all.filterMap settings.portIn := rfl
  rw [view]
  constructor
  · intro nodup field other number isHere isThere
    by_contra apart
    have unequal := List.pairwise_filterMap.mp nodup
    have : Std.Symm fun left right : PortField => ∀ here, settings.portIn left = some here →
        ∀ there, settings.portIn right = some there → here ≠ there :=
      ⟨fun _ _ unequal here isHere there isThere => (unequal there isThere here isHere).symm⟩
    exact unequal.forall (PortField.mem_all field) (PortField.mem_all other) apart
      number isHere number isThere rfl
  · intro distinct
    exact PortField.nodup_all.filterMap fun field other number isHere isThere =>
      distinct field other number isHere isThere

theorem problem?_eq_none_iff : settings.problem? role = none ↔ settings.Valid := by
  have replicas : (settings.replicas.bind fun replicas =>
      if replicas < 0 then some (SpecProblem.negativeReplicas role replicas) else none) = none ↔
        ∀ count, settings.replicas = some count → 0 ≤ count := by
    cases settings.replicas <;> simp
  rw [problem?, Option.or_eq_none_iff, portProblem?_eq_none_iff, replicas, nodup_numbers_iff]
  constructor
  · rintro ⟨⟨inRange, distinct, _⟩, replicas⟩
    exact ⟨fun field number isSet => inRange number (mem_numbers_iff.mpr ⟨field, isSet⟩), distinct,
      replicas⟩
  · rintro ⟨inRange, distinct, replicas⟩
    refine ⟨⟨fun number there => ?_, distinct, List.disjoint_nil_left _⟩, replicas⟩
    rcases mem_numbers_iff.mp there with ⟨field, isSet⟩
    exact inRange field number isSet

end RoleSpec

theorem ClusterSpec.validate_eq_ok_iff {spec : ClusterSpec} {object : String} :
    spec.validate object = .ok () ↔
      ∀ role settings, spec.role? role = some settings → settings.Valid := by
  have accepted : spec.validate object = .ok () ↔ spec.problem? = none := by
    unfold validate
    cases spec.problem? with
    | none => exact ⟨fun _ => rfl, fun _ => rfl⟩
    | some problem => exact ⟨nofun, nofun⟩
  rw [accepted, problem?, List.findSome?_eq_none_iff]
  constructor
  · intro clear role settings declared
    have unproblematic := clear role (Role.mem_all role)
    rw [declared] at unproblematic
    exact RoleSpec.problem?_eq_none_iff.mp unproblematic
  · intro valid role _
    cases declared : spec.role? role with
    | none => rfl
    | some settings => exact RoleSpec.problem?_eq_none_iff.mpr (valid role settings declared)

/-! ### Defaults -/

/-- The number that a field of a service is set to where it is left open. -/
def Role.defaultIn (role : Role) : PortField → Option Int
  | .port => some role.defaultPort
  | .membershipPort => some role.defaultMembershipPort
  | .httpPort => if role = .frontend then some defaultHttpPort else none

namespace Role

variable {role : Role} {field other : PortField} {number : Int}

theorem defaultIn_inRange (default : role.defaultIn field = some number) :
    1 ≤ number ∧ number ≤ 65535 := by
  cases role <;> cases field <;> cases default <;> decide

theorem defaultIn_distinct (here : role.defaultIn field = some number)
    (there : role.defaultIn other = some number) : field = other := by
  cases role <;> cases field <;> cases here <;> cases other <;> first | rfl | cases there

end Role

namespace RoleSpec

variable {settings : RoleSpec} {role : Role}

theorem portIn_withDefaults (settings : RoleSpec) (role : Role) (field : PortField) :
    (settings.withDefaults role).portIn field =
      (settings.portIn field).or (role.defaultIn field) := by
  have setOr_eq (fallback : Int) (port : Option Int) :
      setOr fallback port = port.or (some fallback) := by
    cases port <;> rfl
  cases field with
  | port => exact setOr_eq _ _
  | membershipPort => exact setOr_eq _ _
  | httpPort =>
      simp only [portIn, withDefaults, Role.defaultIn]
      split
      · exact setOr_eq _ _
      · rw [Option.or_none]

/-- A field of a service is set to the number that is the default of another one, which is left
open. -/
def Clashes (settings : RoleSpec) (role : Role) : Prop :=
  ∃ field other number, settings.portIn field = some number ∧ settings.portIn other = none ∧
    role.defaultIn other = some number

theorem valid_withDefaults_iff :
    (settings.withDefaults role).Valid ↔ settings.Valid ∧ ¬ settings.Clashes role := by
  have kept {field : PortField} {number : Int} (isSet : settings.portIn field = some number) :
      (settings.withDefaults role).portIn field = some number := by
    rw [portIn_withDefaults, isSet, Option.some_or]
  constructor
  · intro valid
    refine ⟨?_, ?_⟩
    · exact
        { inRange := fun field number isSet => valid.inRange field number (kept isSet)
          distinct := fun field other number isHere isThere =>
            valid.distinct field other number (kept isHere) (kept isThere)
          replicas := fun count isSet => valid.replicas count (congrArg (setOr 1) isSet) }
    · rintro ⟨field, other, number, isSet, isOpen, default⟩
      have filled : (settings.withDefaults role).portIn other = some number := by
        rw [portIn_withDefaults, isOpen, default, Option.none_or]
      cases valid.distinct field other number (kept isSet) filled
      rw [isSet] at isOpen
      cases isOpen
  · rintro ⟨valid, free⟩
    -- a number in the filled settings was given, or it is a default for what was left open
    have source {field : PortField} {number : Int}
        (filled : (settings.withDefaults role).portIn field = some number) :
        settings.portIn field = some number ∨
          settings.portIn field = none ∧ role.defaultIn field = some number := by
      rw [portIn_withDefaults] at filled
      cases given : settings.portIn field with
      | none => exact .inr ⟨rfl, by simpa [given] using filled⟩
      | some held => exact .inl (by simpa [given] using filled)
    exact
      { inRange := fun field number filled => by
          rcases source filled with isSet | ⟨_, default⟩
          · exact valid.inRange field number isSet
          · exact Role.defaultIn_inRange default
        distinct := fun field other number here there => by
          rcases source here with isHere | ⟨isOpen, default⟩
          · rcases source there with isThere | ⟨isOpen, default⟩
            · exact valid.distinct field other number isHere isThere
            · exact (free ⟨field, other, number, isHere, isOpen, default⟩).elim
          · rcases source there with isThere | ⟨_, otherDefault⟩
            · exact (free ⟨other, field, number, isThere, isOpen, default⟩).elim
            · exact Role.defaultIn_distinct default otherDefault
        replicas := fun count filled => by
          cases given : settings.replicas with
          | none =>
              simp only [withDefaults, given] at filled
              cases filled
              decide
          | some held =>
              have same : held = count := by simpa [withDefaults, given] using filled
              exact same ▸ valid.replicas held given }

/-! Where nothing is set, nothing is wrong. -/

@[simp] theorem portIn_blank (field : PortField) : ({} : RoleSpec).portIn field = none := by
  cases field <;> rfl

theorem not_clashes_blank (role : Role) : ¬ ({} : RoleSpec).Clashes role := by
  rintro ⟨field, other, number, isSet, _⟩
  simp at isSet

theorem valid_blank : ({} : RoleSpec).Valid where
  inRange := by simp
  distinct := by simp
  replicas := nofun

end RoleSpec

/-- A spec is accepted once it is filled in if it is accepted as it is, and no service sets one of
its ports to the default of another one that it leaves open. -/
theorem ClusterSpec.validate_withDefaults_iff (spec : ClusterSpec) (object : String) :
    spec.withDefaults.validate object = .ok () ↔
      spec.validate object = .ok () ∧
        ∀ role settings, spec.role? role = some settings → ¬ settings.Clashes role := by
  rw [validate_eq_ok_iff, validate_eq_ok_iff]
  constructor
  · intro valid
    have own {role : Role} {settings : RoleSpec} (declared : spec.role? role = some settings) :
        settings.Valid ∧ ¬ settings.Clashes role := by
      refine RoleSpec.valid_withDefaults_iff.mp (valid role _ ?_)
      rw [role?_withDefaults, declared, Option.getD_some]
    exact ⟨fun role settings declared => (own declared).1,
      fun role settings declared => (own declared).2⟩
  · rintro ⟨valid, free⟩ role filled declared
    rw [role?_withDefaults] at declared
    cases declared
    refine RoleSpec.valid_withDefaults_iff.mpr ?_
    cases given : spec.role? role with
    | none => exact ⟨RoleSpec.valid_blank, RoleSpec.not_clashes_blank role⟩
    | some settings => exact ⟨valid role settings given, free role settings given⟩

/-- A frontend whose HTTP port is the number on which it is called unless another one is set. -/
def ClusterSpec.crossed : ClusterSpec :=
  { services := some { frontend := some { httpPort := some 7233 } } }

/-- The spec is valid, but what becomes of it is not. -/
theorem ClusterSpec.blocked_by_default :
    crossed.validate "apps/prod" = .ok () ∧
      crossed.withDefaults.validate "apps/prod" =
        .error (.validation "apps/prod"
          "services.frontend.httpPort reuses port 7233 already assigned to port") :=
  ⟨rfl, rfl⟩

end ClusterOperator
