import Mathlib.Data.List.Forall2
import ClusterOperator.Proofs.Attribute.Plan

/-!
# What comes of planning

There is a plan where every type of the spec is one of the seven, whatever the case of its letters,
and no name has one type in the spec and another on the server. The plan then says exactly what is
to be removed and what is to be added. Otherwise the error is about the first name at fault: about
a type that does not exist if there is one, else about a clash.
-/

namespace ClusterOperator

/-! ### Letters without case -/

/-- The characters are the same but for the case of an ASCII letter: a small letter stands 32 places
behind the capital. -/
def SameLetter (left right : Char) : Prop :=
  left = right ∨ (left.isUpper ∧ right.toNat = left.toNat + 32) ∨
    (right.isUpper ∧ left.toNat = right.toNat + 32)

/-- The texts are the same but for the case of ASCII letters. -/
def SameButCase (left right : String) : Prop :=
  List.Forall₂ SameLetter left.toList right.toList

theorem isUpper_iff {letter : Char} :
    letter.isUpper ↔ 65 ≤ letter.toNat ∧ letter.toNat ≤ 90 := by
  change decide (letter.val ≥ 'A'.val ∧ letter.val ≤ 'Z'.val) = true ↔ _
  rw [decide_eq_true_eq, ge_iff_le, UInt32.le_iff_toNat_le, UInt32.le_iff_toNat_le]
  exact Iff.rfl

theorem toNat_toLower (letter : Char) :
    letter.toLower.toNat = if letter.isUpper then letter.toNat + 32 else letter.toNat := by
  change Char.toNat (dite (letter.val ≥ 'A'.val ∧ letter.val ≤ 'Z'.val) _ _) = _
  split
  · rename_i inside
    have upper : letter.isUpper := decide_eq_true inside
    have atMost : letter.val.toNat ≤ 90 := (isUpper_iff.mp upper).2
    have apart : ('a'.val - 'A'.val).toNat = 32 := rfl
    rw [if_pos upper]
    change (letter.val + ('a'.val - 'A'.val)).toNat = letter.val.toNat + 32
    rw [UInt32.toNat_add, apart]
    omega
  · rename_i outside
    have notUpper : letter.isUpper = false := decide_eq_false outside
    rw [notUpper, if_neg Bool.false_ne_true]

theorem toLower_eq_iff {left right : Char} :
    left.toLower = right.toLower ↔ SameLetter left right := by
  rw [← Char.toNat_inj, toNat_toLower, toNat_toLower, SameLetter, ← Char.toNat_inj]
  simp only [isUpper_iff]
  split <;> split <;> omega

namespace AttributeType

variable {type : AttributeType} {text : String}

theorem folded_eq_iff {left right : String} :
    folded left = folded right ↔ SameButCase left right := by
  rw [folded, folded, ← List.forall₂_eq_eq_eq, List.forall₂_map_left_iff,
    List.forall₂_map_right_iff]
  simp only [toLower_eq_iff]
  exact Iff.rfl

theorem eq_of_folded_eq {other : AttributeType} (same : folded type.name = folded other.name) :
    type = other := by
  have apart : ∀ one ∈ all, ∀ other ∈ all, folded one.name = folded other.name → one = other := by
    decide
  exact apart type type.mem_all other other.mem_all same

/-- A text is read as the type whose name it is, whatever the case of its letters. -/
theorem ofName?_eq_some_iff : ofName? text = some type ↔ SameButCase type.name text := by
  rw [← folded_eq_iff]
  constructor
  · intro found
    exact of_decide_eq_true (List.find?_some found :)
  · intro same
    cases found : ofName? text with
    | none =>
        have unlike := List.find?_eq_none.mp found type type.mem_all
        exact absurd (decide_eq_true same) unlike
    | some other =>
        have also := of_decide_eq_true (List.find?_some found :)
        rw [eq_of_folded_eq (also.trans same.symm)]

/-- There are seven names. -/
theorem exists_name_iff {holds : String → Prop} :
    (∃ word ∈ ["Text", "Keyword", "Int", "Double", "Bool", "Datetime", "KeywordList"],
      holds word) ↔ ∃ type : AttributeType, holds type.name := by
  change (∃ word ∈ all.map name, holds word) ↔ _
  simp only [List.mem_map, mem_all, true_and, exists_exists_eq_and]

theorem ofName?_eq_none_iff :
    ofName? text = none ↔ ∀ type : AttributeType, ¬ SameButCase type.name text := by
  simp only [← ofName?_eq_some_iff, Option.eq_none_iff_forall_ne_some, ne_eq]

end AttributeType

namespace AttributePlan

variable {spec : StringMap String} {wanted present : StringMap AttributeType}
  {plan : AttributePlan} {name text : String} {type held : AttributeType} {error : Error}

/-- The spec gives a type to a name. -/
def Declares (spec : StringMap String) (name : String) (type : AttributeType) : Prop :=
  ∃ text, spec.get? name = some text ∧ SameButCase type.name text

/-- The spec gives a name a type that does not exist. -/
def Misnames (spec : StringMap String) (name text : String) : Prop :=
  spec.get? name = some text ∧ ∀ type : AttributeType, ¬ SameButCase type.name text

/-- A name has one type in the spec and another on the server. -/
def Clashes (spec : StringMap String) (present : StringMap AttributeType) (name : String)
    (type held : AttributeType) : Prop :=
  Declares spec name type ∧ present.get? name = some held ∧ held ≠ type

theorem declared?_eq_some_iff : declared? spec name = some type ↔ Declares spec name type := by
  simp only [declared?, Option.bind_eq_some_iff, AttributeType.ofName?_eq_some_iff]
  exact Iff.rfl

theorem not_misnames_iff : ¬ Misnames spec name text ↔
    (spec.get? name = some text → ∃ type : AttributeType, SameButCase type.name text) := by
  simp [Misnames]

theorem agrees_iff : Agrees spec present ↔
    (∀ name text, ¬ Misnames spec name text) ∧
      ∀ name type held, ¬ Clashes spec present name type held := by
  constructor
  · intro agrees
    refine ⟨fun name text misnames => ?_, fun name type held clashes => ?_⟩
    · have typed := agrees.supported name text misnames.1
      rw [AttributeType.ofName?_eq_none_iff.mpr misnames.2] at typed
      cases typed
    · rcases clashes with ⟨declares, isHeld, differ⟩
      have isDeclared := declared?_eq_some_iff.mpr declares
      exact differ (agrees.compatible name type held isDeclared isHeld)
  · rintro ⟨named, compatible⟩
    refine ⟨fun name text there => ?_, fun name type held isDeclared isHeld => ?_⟩
    · rw [Option.isSome_iff_ne_none]
      intro unknown
      exact named name text ⟨there, AttributeType.ofName?_eq_none_iff.mp unknown⟩
    · have declares := declared?_eq_some_iff.mp isDeclared
      exact Decidable.byContradiction fun differ =>
        compatible name type held ⟨declares, isHeld, differ⟩

theorem exists_make_iff : (∃ plan, make spec present = .ok plan) ↔ Agrees spec present := by
  constructor
  · rintro ⟨plan, isPlan⟩
    exact agrees_of_make isPlan
  · intro agrees
    rcases namedTypes_of_supported agrees.supported with ⟨wanted, named⟩
    exact ⟨_, make_of_agrees agrees named⟩

/-! ### What a plan says -/

theorem exists_wanted_of_make (isPlan : make spec present = .ok plan) :
    ∃ wanted, namedTypes spec = .ok wanted ∧ plan = between wanted present := by
  have agrees := agrees_of_make isPlan
  rcases namedTypes_of_supported agrees.supported with ⟨wanted, named⟩
  rw [make_of_agrees agrees named] at isPlan
  exact ⟨wanted, named, (Except.ok.inj isPlan).symm⟩

theorem ascending_removals : Ascending (between wanted present).removals :=
  present.sorted.filter _

theorem mem_removals_iff (named : namedTypes spec = .ok wanted) :
    name ∈ (between wanted present).removals ↔
      (∃ held, present.get? name = some held) ∧ spec.get? name = none := by
  rw [mem_removals, SortedMap.contains, SortedMap.contains, Option.isSome_iff_exists,
    Option.isSome_eq_false_iff, Option.isNone_iff_eq_none, get?_namedTypes named]
  refine and_congr_right fun _ => ?_
  cases there : spec.get? name with
  | none => simp [declared?, there]
  | some text =>
      have typed := supported_of_namedTypes named name text there
      simp [declared?, there, Option.isSome_iff_ne_none.mp typed]

theorem get?_additions_eq_some_iff (named : namedTypes spec = .ok wanted) :
    (between wanted present).additions.get? name = some type ↔
      present.get? name = none ∧ Declares spec name type := by
  rw [get?_additions, get?_namedTypes named, ← declared?_eq_some_iff]
  cases isHeld : present.get? name <;> simp [SortedMap.contains, isHeld]

/-! ### What an error says -/

/-- The first of the names that have a property, in the order of the names. -/
def IsFirst (fault : String → Prop) (name : String) : Prop :=
  fault name ∧ ∀ other, fault other → other = name ∨ compare name other = .lt

/-- Of the types that do not exist the first one is reported. -/
theorem misnames_of_namedTypes (failed : namedTypes spec = .error error) :
    ∃ name text, Misnames spec name text ∧
      IsFirst (fun name => ∃ text, Misnames spec name text) name ∧
      error = .unknownAttributeType name text := by
  rcases SortedMap.split_of_traverse_error failed with
    ⟨front, name, text, back, split, failure, passed⟩
  have there : spec.get? name = some text := SortedMap.get?_eq_some_iff_mem.mpr (by simp [split])
  split at failure
  · cases failure
  · rename_i unknown
    cases failure
    have misnames : Misnames spec name text :=
      ⟨there, AttributeType.ofName?_eq_none_iff.mp unknown⟩
    refine ⟨name, text, misnames, ⟨⟨text, misnames⟩, ?_⟩, rfl⟩
    rintro other ⟨word, isThere, unlike⟩
    rcases SortedMap.mem_or_of_split split isThere with before | ⟨same, _⟩ | behind
    · rcases passed _ before with ⟨type, typed⟩
      rw [AttributeType.ofName?_eq_none_iff.mpr unlike] at typed
      cases typed
    · exact .inl same
    · exact .inr behind

/-- Of the clashes the first one is reported. -/
theorem clashes_of_clash? (named : namedTypes spec = .ok wanted)
    (clash : clash? wanted present = some error) :
    ∃ name type held, Clashes spec present name type held ∧
      IsFirst (fun name => ∃ type held, Clashes spec present name type held) name ∧
      error = .attributeConflict name type.name held.name := by
  have isWanted {name : String} {type : AttributeType} :
      wanted.get? name = some type ↔ Declares spec name type := by
    rw [get?_namedTypes named, declared?_eq_some_iff]
  rcases List.findSome?_eq_some_iff.mp clash with ⟨front, ⟨name, type⟩, back, split, found, passed⟩
  rcases Option.bind_eq_some_iff.mp found with ⟨held, isHeld, differs⟩
  split at differs
  · cases differs
  · rename_i differ
    cases differs
    have there : wanted.get? name = some type :=
      SortedMap.get?_eq_some_iff_mem.mpr (by simp [split])
    have clashes : Clashes spec present name type held := ⟨isWanted.mp there, isHeld, differ⟩
    refine ⟨name, type, held, clashes, ⟨⟨type, held, clashes⟩, ?_⟩, rfl⟩
    rintro other ⟨declared, existing, declares, exists_, unlike⟩
    rcases SortedMap.mem_or_of_split split (isWanted.mpr declares) with
      before | ⟨same, _⟩ | behind
    · have none := passed _ before
      simp [exists_, unlike] at none
    · exact .inl same
    · exact .inr behind

theorem make_eq_error (failed : make spec present = .error error) :
    namedTypes spec = .error error ∨
      ∃ wanted, namedTypes spec = .ok wanted ∧ clash? wanted present = some error := by
  cases named : namedTypes spec with
  | error problem =>
      rw [make, named] at failed
      exact .inl (congrArg _ (Except.error.inj failed))
  | ok wanted =>
      cases clash : clash? wanted present with
      | none => simp [make, named, clash, bind, Except.bind] at failed
      | some problem =>
          refine .inr ⟨wanted, rfl, ?_⟩
          simpa [make, named, clash, bind, Except.bind] using failed

/-- There is a plan exactly where all types of the spec exist and nothing clashes. It removes, in
ascending order, what the server has and the spec does not name, and adds what the spec declares and
the server does not have; once it is carried out, the server has what the spec declares, and nothing
is left to plan. An error is about the first type that does not exist, or, where all types do, about
the first clash. -/
theorem planned_or_refused (spec : StringMap String) (present : StringMap AttributeType) :
    ((∃ plan, make spec present = .ok plan) ↔
      (∀ name text, spec.get? name = some text →
        ∃ word ∈ ["Text", "Keyword", "Int", "Double", "Bool", "Datetime", "KeywordList"],
          SameButCase word text) ∧
      ∀ name type held, ¬ Clashes spec present name type held) ∧
    (∀ plan, make spec present = .ok plan →
      Ascending plan.removals ∧
      (∀ name, name ∈ plan.removals ↔
        (∃ held, present.get? name = some held) ∧ spec.get? name = none) ∧
      (∀ name type, plan.additions.get? name = some type ↔
        present.get? name = none ∧ Declares spec name type) ∧
      namedTypes spec = .ok (plan.applied present) ∧
      (∀ name type, (plan.applied present).get? name = some type ↔ Declares spec name type) ∧
      ∃ rest, make spec (plan.applied present) = .ok rest ∧ rest.isEmpty) ∧
    ∀ error, make spec present = .error error →
      (∃ name text, Misnames spec name text ∧
        IsFirst (fun name => ∃ text, Misnames spec name text) name ∧
        error = .unknownAttributeType name text) ∨
      (∀ name text, ¬ Misnames spec name text) ∧
        ∃ name type held, Clashes spec present name type held ∧
          IsFirst (fun name => ∃ type held, Clashes spec present name type held) name ∧
          error = .attributeConflict name type.name held.name := by
  refine ⟨?_, ?_, ?_⟩
  · rw [exists_make_iff, agrees_iff]
    refine and_congr_left' (forall₂_congr fun name text => ?_)
    rw [not_misnames_iff, AttributeType.exists_name_iff]
  · intro plan isPlan
    have agrees := agrees_of_make isPlan
    rcases exists_wanted_of_make isPlan with ⟨wanted, named, rfl⟩
    rw [applied_of_agrees agrees named]
    refine ⟨ascending_removals, fun name => mem_removals_iff named,
      fun name type => get?_additions_eq_some_iff named, named, fun name type => ?_, _,
      make_self named, rfl⟩
    rw [get?_namedTypes named, declared?_eq_some_iff]
  · intro error failed
    rcases make_eq_error failed with failed | ⟨wanted, named, clash⟩
    · exact .inl (misnames_of_namedTypes failed)
    · refine .inr ⟨fun name text misnames => ?_, clashes_of_clash? named clash⟩
      have typed := supported_of_namedTypes named name text misnames.1
      rw [AttributeType.ofName?_eq_none_iff.mpr misnames.2] at typed
      cases typed

/-- `Team` is read as `Keyword`, `Amount` is new and `Old` is no longer named, so there is a plan and
it leaves the two that are declared. Where `Amount` is held as a text and `Team` has a type that does
not exist, the clash comes first by name and the type is reported. -/
theorem planned_or_refused_of_ledger :
    make (.ofList [("Team", "KEYWORD"), ("Amount", "Int")])
        (.ofList [("Team", .keyword), ("Old", .text)]) =
      .ok { removals := ["Old"], additions := .ofList [("Amount", .int)] } ∧
    (∀ name type, (SortedMap.ofList [("Amount", AttributeType.int), ("Team", .keyword)]).get? name =
      some type ↔ Declares (.ofList [("Team", "KEYWORD"), ("Amount", "Int")]) name type) ∧
    ∃ name text, Misnames (.ofList [("Team", "Money"), ("Amount", "Int")]) name text ∧
      Error.unknownAttributeType "Team" "Money" = .unknownAttributeType name text := by
  have isPlan : make (.ofList [("Team", "KEYWORD"), ("Amount", "Int")])
      (.ofList [("Team", .keyword), ("Old", .text)]) =
      .ok { removals := ["Old"], additions := .ofList [("Amount", .int)] } := rfl
  have failed : make (.ofList [("Team", "Money"), ("Amount", "Int")])
      (.ofList [("Amount", .text)]) = .error (.unknownAttributeType "Team" "Money") := rfl
  have planned := (planned_or_refused _ _).2.1 _ isPlan
  refine ⟨isPlan, planned.2.2.2.2.1, ?_⟩
  rcases (planned_or_refused _ _).2.2 _ failed with ⟨name, text, misnames, _, reported⟩ | ⟨none, _⟩
  · exact ⟨name, text, misnames, reported⟩
  · exact absurd ⟨rfl, AttributeType.ofName?_eq_none_iff.mp rfl⟩ (none "Team" "Money")

end AttributePlan

end ClusterOperator
