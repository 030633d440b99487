import ClusterOperator.Proofs.Cluster.Validity

/-!
# The problem that is reported

Whether a field of a service breaks a rule depends on this field and, for a port, on the fields that
come before it. Of all fields of all services that break a rule, the first one is reported, in the
order of the services and, within a service, of its fields.

The check of a service goes through its ports once and keeps those that it has seen. What it keeps is
what the fields before the next one are set to, so it finds what a look at every field by itself
would find.
-/

namespace ClusterOperator

/-! ### Order -/

section Order

variable {α β : Type} [DecidableEq α] {entries earlier later : List α} {entry other : α}

/-- Of two entries of a list, one comes before the other. -/
def Precedes (entries : List α) (left right : α) : Prop := entries.idxOf left < entries.idxOf right

theorem precedes_iff_mem (fresh : entry ∉ earlier) :
    Precedes (earlier ++ entry :: later) other entry ↔ other ∈ earlier := by
  unfold Precedes
  rw [List.idxOf_append_of_notMem fresh, List.idxOf_cons_self, Nat.add_zero]
  by_cases there : other ∈ earlier
  · rw [List.idxOf_append_of_mem there]
    exact iff_of_true (List.idxOf_lt_length_iff.mpr there) there
  · rw [List.idxOf_append_of_notMem there]
    exact iff_of_false (by omega) there

theorem precedes_append_iff (there : entry ∈ earlier) :
    Precedes (earlier ++ later) other entry ↔ Precedes earlier other entry := by
  unfold Precedes
  rw [List.idxOf_append_of_mem there]
  by_cases isThere : other ∈ earlier
  · rw [List.idxOf_append_of_mem isThere]
  · have inside := List.idxOf_lt_length_iff.mpr there
    have outside := mt List.idxOf_lt_length_iff.mp isThere
    rw [List.idxOf_append_of_notMem isThere]
    omega

/-- The entries before an entry are those up to it. -/
theorem takeWhile_ne_append (fresh : entry ∉ earlier) :
    (earlier ++ entry :: later).takeWhile (· ≠ entry) = earlier := by
  have apart : ∀ other ∈ earlier, decide (other ≠ entry) = true := by
    intro other there
    exact decide_eq_true fun same => fresh (same ▸ there)
  rw [List.takeWhile_append_of_pos apart, List.takeWhile_cons_of_neg (by simp), List.append_nil]

/-- What a search gives is what it gives at the first entry at which it gives anything. -/
theorem findSome?_eq_some_iff_first {search : α → Option β} {found : β} :
    entries.findSome? search = some found ↔
      ∃ entry ∈ entries, search entry = some found ∧
        ∀ other, Precedes entries other entry → search other = none := by
  rw [List.findSome?_eq_some_iff]
  constructor
  · rintro ⟨earlier, entry, later, rfl, isFound, nothing⟩
    have fresh : entry ∉ earlier := by
      intro there
      rw [nothing entry there] at isFound
      cases isFound
    refine ⟨entry, by simp, isFound, fun other before => nothing other ?_⟩
    exact (precedes_iff_mem fresh).mp before
  · rintro ⟨entry, there, isFound, nothing⟩
    rcases List.eq_append_cons_of_mem there with ⟨earlier, later, rfl, fresh⟩
    refine ⟨earlier, entry, later, rfl, isFound, fun other before => nothing other ?_⟩
    exact (precedes_iff_mem fresh).mpr before

theorem find?_eq_some_iff_first {fits : α → Bool} :
    entries.find? fits = some entry ↔
      entry ∈ entries ∧ fits entry ∧ ∀ other, Precedes entries other entry → ¬ fits other := by
  rw [List.find?_eq_findSome?_guard, findSome?_eq_some_iff_first]
  simp only [Option.guard_eq_some_iff, Option.guard_eq_none_iff, Bool.not_eq_true]
  constructor
  · rintro ⟨_, there, ⟨rfl, isFit⟩, nothing⟩
    exact ⟨there, isFit, nothing⟩
  · rintro ⟨there, isFit, nothing⟩
    exact ⟨entry, there, ⟨rfl, isFit⟩, nothing⟩

end Order

/-! ### Services -/

theorem PortField.notMem_of_split {earlier later : List PortField} {field : PortField}
    (split : PortField.all = earlier ++ field :: later) : field ∉ earlier := by
  have distinct := PortField.nodup_all
  rw [split, List.nodup_append] at distinct
  exact fun there => distinct.2.2 field there field List.mem_cons_self rfl

/-- The fields of a service that have to follow a rule. -/
inductive CheckedField where
  | port (field : PortField)
  | replicas
  deriving DecidableEq

namespace CheckedField

/-- The fields in the order in which they are looked at. -/
def all : List CheckedField := PortField.all.map port ++ [replicas]

theorem mem_all (field : CheckedField) : field ∈ all := by
  rcases field with ⟨_ | _ | _⟩ | _ <;> decide

end CheckedField

namespace RoleSpec

variable {settings : RoleSpec} {role : Role} {problem : SpecProblem}

/-- A field of a service breaks a rule. A port that is in range must not be the port of an earlier
field, of which the first one is named. -/
inductive Breaks (settings : RoleSpec) (role : Role) : CheckedField → SpecProblem → Prop
  | outOfRange {field : PortField} {number : Int} (isSet : settings.portIn field = some number)
      (outside : ¬ (1 ≤ number ∧ number ≤ 65535)) :
      Breaks settings role (.port field) (.portOutOfRange role field number)
  | reused {field first : PortField} {number : Int} (isSet : settings.portIn field = some number)
      (inside : 1 ≤ number ∧ number ≤ 65535) (earlier : Precedes PortField.all first field)
      (same : settings.portIn first = some number)
      (isFirst : ∀ other, Precedes PortField.all other first →
        settings.portIn other ≠ some number) :
      Breaks settings role (.port field) (.portReused role field number first)
  | negative {count : Int} (isSet : settings.replicas = some count) (negative : count < 0) :
      Breaks settings role .replicas (.negativeReplicas role count)

/-- The problem of a port, where `earlier` are the fields before it. -/
def portProblemAfter? (settings : RoleSpec) (role : Role) (earlier : List PortField)
    (field : PortField) : Option SpecProblem :=
  (settings.portIn field).bind fun number =>
    if 1 ≤ number ∧ number ≤ 65535 then
      (earlier.find? fun other => settings.portIn other = some number).map
        (.portReused role field number)
    else some (.portOutOfRange role field number)

/-- The problem of a field. -/
def fieldProblem? (settings : RoleSpec) (role : Role) : CheckedField → Option SpecProblem
  | .port field => settings.portProblemAfter? role (PortField.all.takeWhile (· ≠ field)) field
  | .replicas =>
      settings.replicas.bind fun replicas =>
        if replicas < 0 then some (.negativeReplicas role replicas) else none

/-! #### The ports that are kept -/

/-- Fields with what they are set to. -/
def listed (settings : RoleSpec) (fields : List PortField) : List (PortField × Option Int) :=
  fields.map fun field => (field, settings.portIn field)

/-- The fields that are set, with their numbers. -/
def assigned (settings : RoleSpec) (fields : List PortField) : List (PortField × Int) :=
  fields.filterMap fun field => (settings.portIn field).map (field, ·)

theorem assigned_append (earlier later : List PortField) :
    settings.assigned (earlier ++ later) = settings.assigned earlier ++ settings.assigned later :=
  List.filterMap_append

theorem assigned_singleton (field : PortField) :
    settings.assigned [field] = ((settings.portIn field).map (field, ·)).toList := by
  cases isSet : settings.portIn field <;> simp [assigned, isSet]

theorem find?_assigned (fields : List PortField) (number : Int) :
    ((settings.assigned fields).find? fun entry => entry.2 = number) =
      (fields.find? fun field => settings.portIn field = some number).map (·, number) := by
  induction fields with
  | nil => rfl
  | cons field rest ih =>
      rw [← List.singleton_append, assigned_append, assigned_singleton, List.singleton_append]
      cases isSet : settings.portIn field with
      | none => simpa [isSet] using ih
      | some held =>
          by_cases same : held = number
          · simp [isSet, same]
          · simpa [isSet, same] using ih

/-- The first port is looked at, and kept for those after it. -/
theorem portProblem?_cons (earlier rest : List PortField) (field : PortField) :
    portProblem? role (settings.assigned earlier) (settings.listed (field :: rest)) =
      (settings.portProblemAfter? role earlier field).or
        (portProblem? role (settings.assigned (earlier ++ [field])) (settings.listed rest)) := by
  rw [assigned_append, assigned_singleton, portProblemAfter?, listed, List.map_cons, ← listed]
  cases settings.portIn field with
  | none => simp [portProblem?]
  | some number =>
      rw [portProblem?, Option.bind_some, find?_assigned]
      split
      · cases earlier.find? fun other => settings.portIn other = some number with
        | none => simp
        | some first => simp
      · rw [Option.some_or]

/-- Going through the ports finds what a look at every port by itself finds. -/
theorem portProblem?_listed {earlier rest : List PortField} (split : PortField.all = earlier ++ rest) :
    portProblem? role (settings.assigned earlier) (settings.listed rest) =
      rest.findSome? fun field => settings.fieldProblem? role (.port field) := by
  -- by induction on the ports to come: those that are kept are the ones before them
  induction rest generalizing earlier with
  | nil => rfl
  | cons field rest ih =>
      have fresh : field ∉ earlier := PortField.notMem_of_split split
      have longer : PortField.all = (earlier ++ [field]) ++ rest := by
        rw [split, List.append_assoc, List.singleton_append]
      rw [portProblem?_cons, ih longer, List.findSome?_cons, fieldProblem?, split,
        takeWhile_ne_append fresh]
      cases settings.portProblemAfter? role earlier field <;> rfl

theorem problem?_eq_findSome? :
    settings.problem? role = CheckedField.all.findSome? (settings.fieldProblem? role) := by
  have ports : portProblem? role [] settings.ports =
      PortField.all.findSome? fun field => settings.fieldProblem? role (.port field) :=
    portProblem?_listed (List.nil_append PortField.all).symm
  have replicas : [CheckedField.replicas].findSome? (settings.fieldProblem? role) =
      settings.fieldProblem? role .replicas := List.findSome?_singleton
  rw [problem?, ports, CheckedField.all, List.findSome?_append, List.findSome?_map, replicas]
  rfl

/-! #### The field that is reported -/

theorem portProblemAfter?_eq_some_iff {earlier later : List PortField} {field : PortField}
    (split : PortField.all = earlier ++ field :: later) :
    settings.portProblemAfter? role earlier field = some problem ↔
      settings.Breaks role (.port field) problem := by
  have mem_iff (other : PortField) : Precedes PortField.all other field ↔ other ∈ earlier := by
    rw [split, precedes_iff_mem (PortField.notMem_of_split split)]
  rw [portProblemAfter?, Option.bind_eq_some_iff]
  constructor
  · rintro ⟨number, isSet, isProblem⟩
    split_ifs at isProblem with inside
    · rcases Option.map_eq_some_iff.mp isProblem with ⟨first, isFirst, rfl⟩
      rcases find?_eq_some_iff_first.mp isFirst with ⟨there, same, nothing⟩
      refine .reused isSet inside ((mem_iff first).mpr there) (of_decide_eq_true same) ?_
      intro other before
      -- the first one of the earlier fields is the first one of all
      rw [split, precedes_append_iff there] at before
      simpa using nothing other before
    · cases isProblem
      exact .outOfRange isSet inside
  · intro breaks
    cases breaks with
    | outOfRange isSet outside => exact ⟨_, isSet, if_neg outside⟩
    | @reused _ first _ isSet inside before same isFirst =>
        have there := (mem_iff first).mp before
        refine ⟨_, isSet, ?_⟩
        rw [if_pos inside, Option.map_eq_some_iff]
        refine ⟨first, find?_eq_some_iff_first.mpr ⟨there, decide_eq_true same, ?_⟩, rfl⟩
        intro other earlier
        rw [← precedes_append_iff there, ← split] at earlier
        simpa using isFirst other earlier

theorem fieldProblem?_eq_some_iff {field : CheckedField} :
    settings.fieldProblem? role field = some problem ↔ settings.Breaks role field problem := by
  cases field with
  | port field =>
      rcases List.append_of_mem (PortField.mem_all field) with ⟨earlier, later, split⟩
      rw [fieldProblem?, split, takeWhile_ne_append (PortField.notMem_of_split split)]
      exact portProblemAfter?_eq_some_iff split
  | replicas =>
      rw [fieldProblem?, Option.bind_eq_some_iff]
      constructor
      · rintro ⟨count, isSet, isProblem⟩
        split_ifs at isProblem with below
        cases isProblem
        exact .negative isSet below
      · intro breaks
        cases breaks with
        | negative isSet below => exact ⟨_, isSet, if_pos below⟩

theorem fieldProblem?_eq_none_iff {field : CheckedField} :
    settings.fieldProblem? role field = none ↔
      ∀ problem, ¬ settings.Breaks role field problem := by
  rw [Option.eq_none_iff_forall_ne_some]
  exact forall_congr' fun _ => not_congr fieldProblem?_eq_some_iff

/-- The problem of a service is the one of the first field that breaks a rule. -/
theorem problem?_eq_some_iff :
    settings.problem? role = some problem ↔
      ∃ field, settings.Breaks role field problem ∧
        ∀ earlier other, Precedes CheckedField.all earlier field →
          ¬ settings.Breaks role earlier other := by
  rw [problem?_eq_findSome?, findSome?_eq_some_iff_first]
  constructor
  · rintro ⟨field, _, isProblem, nothing⟩
    refine ⟨field, fieldProblem?_eq_some_iff.mp isProblem, fun earlier other before => ?_⟩
    exact fieldProblem?_eq_none_iff.mp (nothing earlier before) other
  · rintro ⟨field, breaks, nothing⟩
    refine ⟨field, CheckedField.mem_all field, fieldProblem?_eq_some_iff.mpr breaks, ?_⟩
    intro earlier before
    exact fieldProblem?_eq_none_iff.mpr fun other => nothing earlier other before

/-- A service has no problem if none of its fields breaks a rule. -/
theorem problem?_eq_none_iff_not_breaks :
    settings.problem? role = none ↔ ∀ field other, ¬ settings.Breaks role field other := by
  rw [problem?_eq_findSome?, List.findSome?_eq_none_iff]
  constructor
  · intro nothing field
    exact fieldProblem?_eq_none_iff.mp (nothing field (CheckedField.mem_all field))
  · intro nothing field _
    exact fieldProblem?_eq_none_iff.mpr (nothing field)

end RoleSpec

/-! ### Specs -/

/-- A field of a service of a cluster. -/
structure SpecPlace where
  role : Role
  field : CheckedField

/-- One field is looked at before another: it belongs to an earlier service, or it is an earlier
field of the same service. -/
def SpecPlace.Before (left right : SpecPlace) : Prop :=
  Precedes Role.all left.role right.role ∨
    left.role = right.role ∧ Precedes CheckedField.all left.field right.field

namespace ClusterSpec

variable {spec : ClusterSpec} {problem : SpecProblem}

/-- A field of a declared service breaks a rule. -/
def Breaks (spec : ClusterSpec) (place : SpecPlace) (problem : SpecProblem) : Prop :=
  ∃ settings, spec.role? place.role = some settings ∧
    settings.Breaks place.role place.field problem

/-- A problem at a field before which no other field breaks a rule. -/
def IsFirstProblem (spec : ClusterSpec) (problem : SpecProblem) : Prop :=
  ∃ place, spec.Breaks place problem ∧
    ∀ earlier other, earlier.Before place → ¬ spec.Breaks earlier other

theorem problem?_eq_some_iff : spec.problem? = some problem ↔ spec.IsFirstProblem problem := by
  rw [problem?, findSome?_eq_some_iff_first]
  constructor
  · rintro ⟨role, _, isProblem, nothing⟩
    rcases Option.bind_eq_some_iff.mp isProblem with ⟨settings, declared, isProblem⟩
    rcases RoleSpec.problem?_eq_some_iff.mp isProblem with ⟨field, breaks, isFirst⟩
    refine ⟨⟨role, field⟩, ⟨settings, declared, breaks⟩, ?_⟩
    rintro ⟨_, earlier⟩ other (before | ⟨rfl, before⟩) ⟨held, isHeld, broken⟩
    · have clear := Option.bind_eq_none_iff.mp (nothing _ before) held isHeld
      exact RoleSpec.problem?_eq_none_iff_not_breaks.mp clear earlier other broken
    · cases declared.symm.trans isHeld
      exact isFirst earlier other before broken
  · rintro ⟨⟨role, field⟩, ⟨settings, declared, breaks⟩, isFirst⟩
    refine ⟨role, Role.mem_all role, ?_, ?_⟩
    · rw [declared, Option.bind_some, RoleSpec.problem?_eq_some_iff]
      refine ⟨field, breaks, fun earlier other before broken => ?_⟩
      exact isFirst ⟨role, earlier⟩ other (.inr ⟨rfl, before⟩) ⟨settings, declared, broken⟩
    · intro earlier before
      rw [Option.bind_eq_none_iff]
      intro held isHeld
      rw [RoleSpec.problem?_eq_none_iff_not_breaks]
      intro field other broken
      exact isFirst ⟨earlier, field⟩ other (.inl before) ⟨held, isHeld, broken⟩

theorem validate_eq_error_iff {object : String} {failure : Error} :
    spec.validate object = .error failure ↔
      ∃ problem, spec.IsFirstProblem problem ∧ failure = .validation object problem.text := by
  unfold validate
  cases reported : spec.problem? with
  | none =>
      refine iff_of_false nofun ?_
      rintro ⟨problem, isFirst, _⟩
      rw [problem?_eq_some_iff.mpr isFirst] at reported
      cases reported
  | some problem =>
      have isFirst := problem?_eq_some_iff.mp reported
      constructor
      · rintro ⟨⟩
        exact ⟨problem, isFirst, rfl⟩
      · rintro ⟨other, isOther, rfl⟩
        rw [problem?_eq_some_iff.mpr isOther] at reported
        cases reported
        rfl

/-- A spec is accepted if all ports of every declared service are in range and differ and its
replicas are not negative. Otherwise, the first field that breaks a rule is reported, under the name
of the object. -/
theorem validate_reports_first (spec : ClusterSpec) (object : String) :
    (spec.validate object = .ok () ↔
      ∀ role settings, spec.role? role = some settings → settings.Valid) ∧
    ∀ failure, spec.validate object = .error failure ↔
      ∃ problem, spec.IsFirstProblem problem ∧ failure = .validation object problem.text :=
  ⟨validate_eq_ok_iff, fun _ => validate_eq_error_iff⟩

/-- The history service comes before the matching service. -/
example :
    ({ services := some
        { history := some { replicas := some (-1) }
          matching := some { port := some 0, httpPort := some 0 } } } : ClusterSpec).validate
        "apps/prod" =
      .error (.validation "apps/prod" "services.history.replicas must not be negative, got -1") :=
  rfl

end ClusterSpec

end ClusterOperator
