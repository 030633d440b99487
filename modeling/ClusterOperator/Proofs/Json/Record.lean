import ClusterOperator.Json.Record
import Mathlib.Data.List.Basic

/-!
# Reading back what was written

Members that are left out where they are unset are put together to a record. A reader finds each of
them under its name, and takes what was left out for unset.
-/

namespace ClusterOperator.Json

variable {α β : Type} {name other : String} {members : List (String × Json)}

theorem lookup_cons (value : Json) :
    lookup name ((other, value) :: members) =
      if other = name then some value else lookup name members :=
  rfl

theorem lookup_append (name : String) (front back : List (String × Json)) :
    lookup name (front ++ back) = (lookup name front).or (lookup name back) := by
  induction front with
  | nil => rfl
  | cons field rest ih =>
      rw [List.cons_append, lookup_cons, lookup_cons]
      split
      · rfl
      · exact ih

theorem lookup_optionalField (write : α → Json) (value : Option α) :
    lookup name (optionalField other write value) =
      if other = name then value.map write else none := by
  cases value with
  | none => simp [optionalField, lookup]
  | some held => simp [optionalField, lookup]

/-! ### Names -/

/-- The names of the members are some of a list, in its order. -/
class Named (members : List (String × Json)) (names : outParam (List String)) : Prop where
  ordered : (members.map Prod.fst).Sublist names

namespace Named

variable {front back : List (String × Json)} {first second names : List String}

instance optionalField (write : α → Json) (value : Option α) :
    Named (Json.optionalField name write value) [name] where
  ordered := by
    cases value with
    | none => exact List.nil_sublist _
    | some held => exact List.Sublist.refl _

instance ite (nothing : Prop) [Decidable nothing] (value : Json) :
    Named (if nothing then [] else [(name, value)]) [name] where
  ordered := by
    split
    · exact List.nil_sublist _
    · exact List.Sublist.refl _

instance nil : Named [] [] where
  ordered := List.nil_sublist _

instance cons (value : Json) [rest : Named members names] :
    Named ((name, value) :: members) (name :: names) where
  ordered := rest.ordered.cons_cons name

instance append [left : Named front first] [right : Named back second] :
    Named (front ++ back) (first ++ second) where
  ordered := by
    rw [List.map_append]
    exact left.ordered.append right.ordered

end Named

/-- A strict record with members that it knows, each of them once, can be read. -/
theorem strictMembers?_of_named {own names : List String} [named : Named members own]
    (known : ∀ name ∈ own, name ∈ names) (distinct : own.Nodup) :
    (object members).strictMembers? names = some members := by
  have same : members.filter (fun field => field.1 ∈ names) = members := by
    apply List.filter_eq_self.mpr
    intro field there
    exact decide_eq_true (known _ (named.ordered.subset (List.mem_map_of_mem there)))
  unfold strictMembers?
  dsimp only
  rw [same, if_pos (distinct.sublist named.ordered)]

/-! ### Members -/

theorem optional_of_lookup {read : Json → Option β} (write : α → Json) (back : α → β)
    (value : Option α) (found : lookup name members = value.map write)
    (written : ∀ held, value = some held →
      write held ≠ null ∧ read (write held) = some (back held)) :
    optional read name members = some (value.map back) := by
  unfold optional
  rw [found]
  cases value with
  | none => rfl
  | some held =>
      rcases written held rfl with ⟨something, isRead⟩
      dsimp only [Option.map_some]
      split
      · rename_i missing
        cases missing
      · rename_i isNull
        exact absurd (Option.some.inj isNull) something
      · rename_i value _ isValue
        cases isValue
        rw [isRead]
        rfl

/-- A part that is read as it was written. -/
theorem optional_part {read : Json → Option α} (write : α → Json) (value : Option α)
    (found : lookup name members = value.map write)
    (isRead : ∀ part, value = some part → write part ≠ null ∧ read (write part) = some part) :
    optional read name members = some value := by
  rw [optional_of_lookup write id value found isRead, Option.map_id_apply]

theorem optional_text (value : Option String) (found : lookup name members = value.map .string) :
    optional string? name members = some value :=
  optional_part .string value found fun _ _ => ⟨nofun, rfl⟩

/-- A member is unset where it is absent or `null`; otherwise its value was read. -/
theorem optional_cases {read : Json → Option α} {value : Option α}
    (isRead : optional read name members = some value) :
    (value = none ∧ ∀ json, lookup name members = some json → json = null) ∨
      ∃ json held, lookup name members = some json ∧ json ≠ null ∧ read json = some held ∧
        value = some held := by
  unfold optional at isRead
  split at isRead
  · rename_i absent
    cases isRead
    refine .inl ⟨rfl, fun json there => ?_⟩
    cases absent.symm.trans there
  · rename_i isNull
    cases isRead
    refine .inl ⟨rfl, fun json there => ?_⟩
    cases isNull.symm.trans there
    rfl
  · rename_i json something there
    rcases Option.map_eq_some_iff.mp isRead with ⟨held, isHeld, rfl⟩
    exact .inr ⟨json, held, there, fun isNull => something isNull, isHeld, rfl⟩

/-- A text that was read is the one that stands there. -/
theorem bind_string?_lookup {value : Option String}
    (isRead : optional string? name members = some value) :
    (lookup name members).bind string? = value := by
  rcases optional_cases isRead with ⟨rfl, nothing⟩ | ⟨json, held, there, _, isText, rfl⟩
  · cases there : lookup name members with
    | none => rfl
    | some json =>
        rw [nothing json there]
        rfl
  · rw [there]
    exact isText

theorem defaulted_of_lookup {fallback value : α} (read : Json → Option α) (written : Json)
    (found : lookup name members = some written) (isRead : read written = some value) :
    defaulted fallback read name members = some value := by
  unfold defaulted
  rw [found]
  exact isRead

theorem defaulted_of_absent {read : Json → Option α} {fallback : α}
    (absent : lookup name members = none) :
    defaulted fallback read name members = some fallback := by
  unfold defaulted
  rw [absent]

/-! ### Members that are kept as they are -/

variable {names : List String}

/-- They depend on their values only. -/
theorem kept_congr {others : List (String × Json)}
    (same : ∀ name ∈ names, lookup name others = lookup name members) :
    kept names others = kept names members := by
  refine List.filterMap_congr fun name there => ?_
  rw [same name there]

theorem lookup_filterMap (value? : String → Option Json) :
    lookup name (names.filterMap fun other => (value? other).map fun value => (other, value)) =
      if name ∈ names then value? name else none := by
  induction names with
  | nil => simp [lookup]
  | cons first rest ih =>
      by_cases same : first = name
      · subst first
        cases said : value? name with
        | none => simp [said, ih]
        | some value => simp [said, lookup]
      · cases said : value? first with
        | none => simp [said, ih, Ne.symm same]
        | some value => simp [said, ih, lookup, same, Ne.symm same]

theorem kept_eq (names : List String) (members : List (String × Json)) :
    kept names members = names.filterMap fun name =>
      ((lookup name members).filter fun value => value ≠ null).map fun value => (name, value) := by
  apply List.filterMap_congr
  intro name _
  cases lookup name members with
  | none => rfl
  | some value => cases value <;> simp [Option.filter]

theorem lookup_kept :
    lookup name (kept names members) =
      if name ∈ names then (lookup name members).filter fun value => value ≠ null else none := by
  rw [kept_eq]
  exact lookup_filterMap fun name => (lookup name members).filter fun value => value ≠ null

theorem lookup_kept_of_not_mem (apart : name ∉ names) : lookup name (kept names members) = none := by
  rw [lookup_kept, if_neg apart]

instance Named.kept (names : List String) (members : List (String × Json)) :
    Named (Json.kept names members) names where
  ordered := by
    rw [kept_eq, List.map_filterMap]
    induction names with
    | nil => exact List.nil_sublist _
    | cons name rest ih =>
        rw [List.filterMap_cons]
        cases (lookup name members).filter fun value => value ≠ null with
        | none => exact ih.cons name
        | some value => exact ih.cons_cons name

/-- What is kept can be kept again. -/
theorem kept_kept (names : List String) (members : List (String × Json)) :
    kept names (kept names members) = kept names members := by
  rw [kept_eq names members, kept_eq names]
  apply List.filterMap_congr
  intro name there
  rw [← kept_eq, lookup_kept, if_pos there, Option.filter_filter]
  simp

end ClusterOperator.Json
