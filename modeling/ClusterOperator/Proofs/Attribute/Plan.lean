import ClusterOperator.SearchAttribute.Plan
import ClusterOperator.SortedMap.Lemmas

/-!
# What plans do

There is a plan for a spec and the attributes of a server exactly where they agree: every type of
the spec exists, and the server knows no name of the spec under another type. A plan removes only
what the spec does not name and adds only what the server does not have, and once it is carried out
the attributes are those of the spec, for which there is nothing left to do.
-/

namespace ClusterOperator

namespace AttributePlan

variable {spec : StringMap String} {wanted present : StringMap AttributeType} {name : String}

/-- The type that a spec gives to a name. -/
def declared? (spec : StringMap String) (name : String) : Option AttributeType :=
  (spec.get? name).bind AttributeType.ofName?

/-- All types of a spec exist, and a name that both sides have has one type. -/
structure Agrees (spec : StringMap String) (present : StringMap AttributeType) : Prop where
  supported : ∀ name text, spec.get? name = some text → (AttributeType.ofName? text).isSome
  compatible : ∀ name type held, declared? spec name = some type →
    present.get? name = some held → held = type

theorem get?_namedTypes (named : namedTypes spec = .ok wanted) (name : String) :
    wanted.get? name = declared? spec name := by
  rw [declared?, SortedMap.get?_traverse named name]
  congr 1
  funext text
  cases AttributeType.ofName? text <;> rfl

theorem unsupported_of_namedTypes {error : Error} (failed : namedTypes spec = .error error) :
    ∃ name text, spec.get? name = some text ∧ AttributeType.ofName? text = none := by
  rcases SortedMap.split_of_traverse_error failed with
    ⟨front, name, text, back, split, failure, _⟩
  have there : (name, text) ∈ spec.entries := by simp [split]
  refine ⟨name, text, SortedMap.get?_eq_some_iff_mem.mpr there, ?_⟩
  split at failure
  · cases failure
  · assumption

theorem namedTypes_of_supported
    (supported : ∀ name text, spec.get? name = some text → (AttributeType.ofName? text).isSome) :
    ∃ wanted, namedTypes spec = .ok wanted := by
  cases named : namedTypes spec with
  | ok wanted => exact ⟨wanted, rfl⟩
  | error error =>
      rcases unsupported_of_namedTypes named with ⟨name, text, there, unknown⟩
      simpa [unknown] using supported name text there

theorem supported_of_namedTypes (named : namedTypes spec = .ok wanted) (name text : String)
    (there : spec.get? name = some text) : (AttributeType.ofName? text).isSome := by
  -- every name of the spec is a key of what became of it
  have kept : name ∈ wanted.keys := by
    unfold namedTypes SortedMap.traverse at named
    split at named
    · cases named
    · cases named
      have same := SortedMap.keys_of_traverseEntries ‹_›
      rw [SortedMap.keys, same]
      exact SortedMap.mem_keys.mpr (by simp [SortedMap.contains, there])
  have typed := SortedMap.mem_keys.mp kept
  rw [SortedMap.contains, get?_namedTypes named name] at typed
  simpa [declared?, there] using typed

theorem clash?_eq_none :
    clash? wanted present = none ↔
      ∀ name type held, wanted.get? name = some type → present.get? name = some held →
        held = type := by
  simp only [clash?, List.findSome?_eq_none_iff, Option.bind_eq_none_iff, Prod.forall,
    ← SortedMap.get?_eq_some_iff_mem]
  refine forall₂_congr fun name type => forall_comm.trans (forall_congr' fun held => ?_)
  by_cases same : held = type <;> simp [same]

theorem make_of_agrees (agrees : Agrees spec present) (named : namedTypes spec = .ok wanted) :
    make spec present = .ok (between wanted present) := by
  have clear : clash? wanted present = none := by
    apply clash?_eq_none.mpr
    intro name type held isWanted isHeld
    rw [get?_namedTypes named] at isWanted
    exact agrees.compatible name type held isWanted isHeld
  simp [make, named, clear, bind, Except.bind]

theorem agrees_of_make {plan : AttributePlan} (isPlan : make spec present = .ok plan) :
    Agrees spec present := by
  cases named : namedTypes spec with
  | error error => simp [make, named, bind, Except.bind] at isPlan
  | ok wanted =>
      refine ⟨supported_of_namedTypes named, ?_⟩
      have clear : clash? wanted present = none := by
        cases clash : clash? wanted present with
        | none => rfl
        | some problem => simp [make, named, clash, bind, Except.bind] at isPlan
      intro name type held isDeclared isHeld
      rw [← get?_namedTypes named] at isDeclared
      exact clash?_eq_none.mp clear name type held isDeclared isHeld

/-- The types of a spec, once a server has them, agree with the spec. -/
theorem agrees_self (named : namedTypes spec = .ok wanted) : Agrees spec wanted := by
  refine ⟨supported_of_namedTypes named, ?_⟩
  intro name type held isDeclared isHeld
  rw [get?_namedTypes named, isDeclared] at isHeld
  exact (Option.some_inj.mp isHeld).symm

/-! ### Carrying a plan out -/

theorem mem_removals :
    name ∈ (between wanted present).removals ↔
      present.contains name ∧ wanted.contains name = false := by
  simp [between, SortedMap.mem_keys]

theorem get?_additions :
    (between wanted present).additions.get? name =
      if present.contains name then none else wanted.get? name := by
  simp only [between, SortedMap.get?_filter]
  cases wanted.get? name <;> by_cases there : present.contains name <;> simp [there]

/-- What is removed is not named by the spec. -/
theorem unnamed_of_mem_removals (named : namedTypes spec = .ok wanted)
    (removed : name ∈ (between wanted present).removals) : spec.get? name = none := by
  have unwanted := (mem_removals.mp removed).2
  cases there : spec.get? name with
  | none => rfl
  | some text =>
      have typed := supported_of_namedTypes named name text there
      simp [SortedMap.contains, get?_namedTypes named, declared?, there, typed] at unwanted

/-- What is added has the type that the spec gives to it. -/
theorem declared?_of_additions {type : AttributeType} (named : namedTypes spec = .ok wanted)
    (added : (between wanted present).additions.get? name = some type) :
    declared? spec name = some type := by
  rw [get?_additions] at added
  split at added
  · cases added
  · rw [← get?_namedTypes named, added]

/-- The attributes after a plan was carried out. -/
def applied (plan : AttributePlan) (present : StringMap AttributeType) : StringMap AttributeType :=
  (present.filter fun held _ => held ∉ plan.removals).overlay plan.additions

/-- To remove nothing is to change nothing. -/
theorem filter_of_none {removals : List String} (none : ¬ removals ≠ [])
    (present : StringMap AttributeType) :
    (present.filter fun held _ => held ∉ removals) = present := by
  apply SortedMap.ext_get?
  intro name
  rw [SortedMap.get?_filter, Decidable.not_not.mp none]
  cases present.get? name <;> simp

/-- To add nothing is to change nothing. -/
theorem overlay_of_none {additions : StringMap AttributeType} (none : ¬ (!additions.isEmpty) = true)
    (present : StringMap AttributeType) : present.overlay additions = present := by
  have empty : additions = ∅ := SortedMap.isEmpty_iff.mp (by simpa using none)
  rw [empty]
  rfl

/-- A plan that is carried out leaves the attributes of the spec. -/
theorem applied_of_agrees (agrees : Agrees spec present) (named : namedTypes spec = .ok wanted) :
    (between wanted present).applied present = wanted := by
  apply SortedMap.ext_get?
  intro name
  have lookup : ((between wanted present).applied present).get? name =
      ((between wanted present).additions.get? name).or
        ((present.get? name).filter fun _ => name ∉ (between wanted present).removals) := by
    rw [applied, SortedMap.get?_overlay, SortedMap.get?_filter]
  rw [lookup]
  cases isHeld : present.get? name with
  | none => simp [get?_additions, SortedMap.contains, isHeld]
  | some held =>
      cases isWanted : wanted.get? name with
      | none => simp [get?_additions, mem_removals, SortedMap.contains, isHeld, isWanted]
      | some type =>
          have isDeclared : declared? spec name = some type := by
            rw [← get?_namedTypes named, isWanted]
          have same := agrees.compatible name type held isDeclared isHeld
          simp [get?_additions, mem_removals, SortedMap.contains, isHeld, isWanted, same]

theorem between_self : between wanted wanted = { removals := [], additions := ∅ } := by
  have additions : (between wanted wanted).additions = ∅ := by
    apply SortedMap.ext_get?
    intro name
    rw [get?_additions]
    cases isWanted : wanted.get? name <;> simp [SortedMap.contains, isWanted] <;> rfl
  have removals : (between wanted wanted).removals = [] := by
    simp [between, SortedMap.mem_keys]
  rw [← removals, ← additions]

/-- A server that has the types of a spec has nothing to change. -/
theorem make_self (named : namedTypes spec = .ok wanted) :
    make spec wanted = .ok { removals := [], additions := ∅ } := by
  rw [make_of_agrees (agrees_self named) named, between_self]

end AttributePlan

end ClusterOperator
