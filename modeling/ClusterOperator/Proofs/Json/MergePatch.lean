import ClusterOperator.Json.MergePatch
import ClusterOperator.Proofs.Json.Record

/-!
# What a merge patch changes

The members of an object in which each name stands once are found under their names in any order. A
member that a merge patch sets is found afterwards, and all others are found as before. So what a
patch does not name stays there, and a record comes through a patch as it is only where it names
every member that was there before.
-/

namespace ClusterOperator.Json

variable {α : Type} {name other : String} {fields changes : List (String × Json)}
  {value change : Json}

/-- Each name stands once. -/
def Distinct (fields : List (String × Json)) : Prop := (fields.map Prod.fst).Nodup

instance : Decidable (Distinct fields) :=
  inferInstanceAs (Decidable (fields.map Prod.fst).Nodup)

theorem Named.distinct {names : List String} [named : Named fields names]
    (distinct : names.Nodup) : Distinct fields :=
  named.ordered.nodup distinct

theorem lookup_eq_some_iff (distinct : Distinct fields) :
    lookup name fields = some value ↔ (name, value) ∈ fields := by
  induction fields with
  | nil => simp [lookup]
  | cons field rest ih =>
      rcases field with ⟨first, held⟩
      rcases List.nodup_cons.mp distinct with ⟨new, distinct⟩
      rw [lookup_cons, List.mem_cons, Prod.mk.injEq]
      split
      · rename_i same
        subst same
        constructor
        · rintro ⟨⟩
          exact .inl ⟨rfl, rfl⟩
        · rintro (⟨_, rfl⟩ | there)
          · rfl
          · exact absurd (List.mem_map_of_mem there) new
      · rename_i different
        rw [ih distinct]
        constructor
        · exact .inr
        · rintro (⟨rfl, _⟩ | there)
          · exact absurd rfl different
          · exact there

theorem lookup_eq_of_mem_iff {back : List (String × Json)} (distinct : Distinct fields)
    (distinctBack : Distinct back) (same : ∀ value, (name, value) ∈ fields ↔ (name, value) ∈ back) :
    lookup name fields = lookup name back := by
  refine Option.ext fun value => ?_
  rw [lookup_eq_some_iff distinct, lookup_eq_some_iff distinctBack, same]

theorem lookup_eq_none_iff : lookup name fields = none ↔ name ∉ fields.map Prod.fst := by
  induction fields with
  | nil => simp [lookup]
  | cons field rest ih =>
      rcases field with ⟨first, held⟩
      rw [lookup_cons, List.map_cons, List.mem_cons, not_or]
      split
      · rename_i same
        simp [same]
      · rename_i different
        rw [ih]
        exact (and_iff_right (Ne.symm different)).symm

theorem Distinct.nodup (distinct : Distinct fields) : fields.Nodup := by
  refine List.Pairwise.of_map Prod.fst ?_ distinct
  rintro front back different rfl
  exact different rfl

/-- Members that are found under the same names are the same up to their order. -/
theorem perm_of_lookup {back : List (String × Json)} (distinct : Distinct fields)
    (distinctBack : Distinct back) (same : ∀ name, lookup name fields = lookup name back) :
    fields.Perm back := by
  apply (List.perm_ext_iff_of_nodup distinct.nodup distinctBack.nodup).mpr
  rintro ⟨name, value⟩
  rw [← lookup_eq_some_iff distinct, ← lookup_eq_some_iff distinctBack, same]

theorem Distinct.of_perm {front : List (String × Json)} (distinct : Distinct fields)
    (perm : front.Perm fields) : Distinct front :=
  (perm.map Prod.fst).nodup_iff.mpr distinct

/-- Where each name stands once, the order does not matter to what is found. -/
theorem lookup_eq_of_perm {front : List (String × Json)} (distinct : Distinct fields)
    (perm : front.Perm fields) : lookup name front = lookup name fields :=
  lookup_eq_of_mem_iff (distinct.of_perm perm) distinct fun _ => perm.mem_iff

theorem lookup_reverse (distinct : Distinct fields) :
    lookup name fields.reverse = lookup name fields :=
  lookup_eq_of_perm distinct (List.reverse_perm fields)

theorem lookup_filter {names : List String} (there : name ∈ names) :
    lookup name (fields.filter fun field => field.1 ∈ names) = lookup name fields := by
  induction fields with
  | nil => rfl
  | cons field rest ih =>
      rcases field with ⟨first, held⟩
      rw [List.filter_cons]
      split
      · rw [lookup_cons, lookup_cons, ih]
      · rename_i unknown
        rw [lookup_cons, if_neg, ih]
        rintro rfl
        exact unknown (decide_eq_true there)

theorem Distinct.filter {keep : String × Json → Bool} (distinct : Distinct fields) :
    Distinct (fields.filter keep) :=
  distinct.sublist (List.filter_sublist.map _)

/-- The members of a strict record in which each name stands once. -/
theorem strictMembers?_of_distinct (names : List String) (distinct : Distinct fields) :
    (object fields).strictMembers? names =
      some (fields.filter fun field => field.1 ∈ names) :=
  if_pos distinct.filter

/-! ### Setting a member -/

theorem lookup_withField (name other : String) (value : Json) (fields : List (String × Json)) :
    lookup name (withField other value fields) =
      if other = name then some value else lookup name fields := by
  induction fields with
  | nil => rfl
  | cons field rest ih =>
      rcases field with ⟨first, held⟩
      unfold withField
      split
      · rename_i same
        subst same
        rw [lookup_cons, lookup_cons]
        split <;> rfl
      · rename_i different
        rw [lookup_cons, lookup_cons, ih]
        by_cases here : first = name
        · subst here
          rw [if_pos rfl, if_pos rfl, if_neg (Ne.symm different)]
        · rw [if_neg here, if_neg here]

theorem mem_names_withField {first : String} :
    first ∈ (withField name value fields).map Prod.fst ↔
      first = name ∨ first ∈ fields.map Prod.fst := by
  induction fields with
  | nil => simp [withField]
  | cons field rest ih =>
      unfold withField
      split
      · rename_i same
        simp [same]
      · rw [List.map_cons, List.mem_cons, ih, List.map_cons, List.mem_cons, or_left_comm]

theorem Distinct.withField (distinct : Distinct fields) (name : String) (value : Json) :
    Distinct (withField name value fields) := by
  induction fields with
  | nil => exact List.pairwise_singleton _ _
  | cons field rest ih =>
      rcases List.nodup_cons.mp distinct with ⟨new, distinct⟩
      unfold Json.withField
      split
      · rename_i same
        subst same
        exact List.nodup_cons.mpr ⟨new, distinct⟩
      · rename_i different
        refine List.nodup_cons.mpr ⟨fun there => ?_, ih distinct⟩
        rcases mem_names_withField.mp there with same | there
        · exact different same
        · exact new there

/-! ### Applying a patch -/

theorem lookup_without (name other : String) (fields : List (String × Json)) :
    lookup name (without other fields) = if other = name then none else lookup name fields := by
  induction fields with
  | nil =>
      split
      · rfl
      · rfl
  | cons field rest ih =>
      rcases field with ⟨first, held⟩
      unfold without at ih ⊢
      rw [List.filter_cons]
      split
      · rename_i kept
        have different : first ≠ other := of_decide_eq_true kept
        rw [lookup_cons, lookup_cons, ih]
        by_cases here : first = name
        · subst here
          rw [if_pos rfl, if_pos rfl, if_neg (Ne.symm different)]
        · rw [if_neg here, if_neg here]
      · rename_i dropped
        have same : first = other := by simpa using dropped
        subst same
        rw [ih, lookup_cons]
        split <;> rfl

theorem mergeFields_cons (something : change ≠ null) (rest : List (String × Json)) :
    mergeFields fields ((name, change) :: rest) =
      mergeFields (withField name (mergePatch ((lookup name fields).getD null) change) fields)
        rest := by
  cases change with
  | null => exact absurd rfl something
  | _ => simp only [mergeFields]

/-- A member that a patch does not name stays as it is. -/
theorem lookup_mergeFields_of_not_mem (unnamed : name ∉ changes.map Prod.fst) :
    lookup name (mergeFields fields changes) = lookup name fields := by
  induction changes generalizing fields with
  | nil => rw [mergeFields]
  | cons field rest ih =>
      rcases field with ⟨first, change⟩
      rcases List.ne_and_not_mem_of_not_mem_cons unnamed with ⟨different, later⟩
      by_cases removed : change = null
      · rw [removed, mergeFields, ih later, lookup_without, if_neg (Ne.symm different)]
      · rw [mergeFields_cons removed, ih later, lookup_withField, if_neg (Ne.symm different)]

/-- A member that a patch changes and does not remove. -/
theorem lookup_mergeFields_of_mem (distinct : Distinct changes) (there : (name, change) ∈ changes)
    (something : change ≠ null) :
    lookup name (mergeFields fields changes) =
      some (mergePatch ((lookup name fields).getD null) change) := by
  induction changes generalizing fields with
  | nil => cases there
  | cons field rest ih =>
      rcases field with ⟨first, head⟩
      rcases List.nodup_cons.mp distinct with ⟨new, distinctRest⟩
      rcases List.mem_cons.mp there with same | later
      · cases same
        rw [mergeFields_cons something, lookup_mergeFields_of_not_mem new, lookup_withField,
          if_pos rfl]
      · have different : first ≠ name := by
          rintro rfl
          have named : first ∈ rest.map Prod.fst := List.mem_map_of_mem later
          exact new named
        by_cases removed : head = null
        · rw [removed, mergeFields, ih distinctRest later, lookup_without, if_neg different]
        · rw [mergeFields_cons removed, ih distinctRest later, lookup_withField, if_neg different]

theorem Distinct.mergeFields (distinct : Distinct fields) (changes : List (String × Json)) :
    Distinct (mergeFields fields changes) := by
  induction changes generalizing fields with
  | nil =>
      rw [Json.mergeFields]
      exact distinct
  | cons field rest ih =>
      rcases field with ⟨first, change⟩
      by_cases removed : change = null
      · rw [removed, Json.mergeFields]
        exact ih distinct.filter
      · rw [mergeFields_cons removed]
        exact ih (distinct.withField _ _)

theorem mergePatch_object (target : Json) (changes : List (String × Json)) :
    target.mergePatch (object changes) = object (mergeFields target.fields changes) := by
  rw [mergePatch]

theorem field?_mergePatch_of_not_mem {target : Json} (unnamed : name ∉ changes.map Prod.fst) :
    (target.mergePatch (object changes)).field? name = target.field? name := by
  rw [mergePatch_object]
  exact lookup_mergeFields_of_not_mem unnamed

theorem field?_mergePatch_of_mem {target : Json} (distinct : Distinct changes)
    (there : (name, change) ∈ changes) (something : change ≠ null) :
    (target.mergePatch (object changes)).field? name =
      some (((target.field? name).getD null).mergePatch change) := by
  rw [mergePatch_object]
  exact lookup_mergeFields_of_mem distinct there something

/-- A value that a patch puts in the place of any other as it stands. -/
def IsLeaf : Json → Prop
  | null => False
  | object _ => False
  | _ => True

theorem IsLeaf.ne_null (leaf : value.IsLeaf) : value ≠ null := by
  rintro rfl
  exact leaf

theorem IsLeaf.mergePatch_eq (leaf : value.IsLeaf) (target : Json) :
    target.mergePatch value = value := by
  rw [mergePatch]
  rintro fields rfl
  exact leaf

/-- Two objects with the same members, in any order. -/
inductive SameMembers : Json → Json → Prop
  | object {front back : List (String × Json)} (perm : front.Perm back) :
      SameMembers (object front) (object back)

/-- An object in which each name stands once and no member has members of its own or is `null`. -/
structure Flat (record : Json) : Prop where
  isObject : record = object record.fields
  distinct : Distinct record.fields
  leaves : ∀ field ∈ record.fields, field.2.IsLeaf

/-- Where a patch names every member, what was there before has no part in what comes of it. -/
theorem Flat.sameMembers_mergePatch {target record : Json} (flat : record.Flat)
    (distinct : Distinct target.fields)
    (named : target.fields.map Prod.fst ⊆ record.fields.map Prod.fst) :
    (target.mergePatch record).SameMembers record := by
  rw [flat.isObject, mergePatch_object]
  apply SameMembers.object
  apply perm_of_lookup (distinct.mergeFields _) flat.distinct
  intro name
  cases isThere : lookup name record.fields with
  | none =>
      have unnamed := lookup_eq_none_iff.mp isThere
      rw [lookup_mergeFields_of_not_mem unnamed]
      exact lookup_eq_none_iff.mpr fun earlier => unnamed (named earlier)
  | some value =>
      have there := (lookup_eq_some_iff flat.distinct).mp isThere
      have leaf := flat.leaves _ there
      rw [lookup_mergeFields_of_mem flat.distinct there leaf.ne_null, leaf.mergePatch_eq]

/-! ### Reading members -/

theorem optional_congr {read : Json → Option α} {back : List (String × Json)}
    (same : lookup name fields = lookup name back) :
    optional read name fields = optional read name back := by
  unfold optional
  rw [same]

theorem defaulted_congr {read : Json → Option α} {fallback : α} {back : List (String × Json)}
    (same : lookup name fields = lookup name back) :
    defaulted fallback read name fields = defaulted fallback read name back := by
  unfold defaulted
  rw [same]

theorem required_congr {read : Json → Option α} {back : List (String × Json)}
    (same : lookup name fields = lookup name back) :
    required read name fields = required read name back := by
  unfold required
  rw [same]

end ClusterOperator.Json
