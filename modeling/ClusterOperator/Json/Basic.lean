import ClusterOperator.SortedMap.Basic

/-!
# JSON values

A JSON document as a tree. Numbers written without fraction and exponent are integers of any size;
other numbers keep their decimal value. An object lists its members in the order in which they are
written, repetitions included, because some readers of a document refuse a repeated member and some
take the last one.
-/

namespace ClusterOperator

/-- A JSON value. The number `decimal m e` is `m * 10 ^ e`. -/
inductive Json where
  | null
  | bool (value : Bool)
  | integer (value : Int)
  | decimal (mantissa exponent : Int)
  | string (value : String)
  | array (items : List Json)
  | object (fields : List (String × Json))
  deriving Inhabited

namespace Json

/-- The value of the first member with a name in a list of members. -/
def lookup (name : String) : List (String × Json) → Option Json
  | [] => none
  | (other, value) :: rest => if other = name then some value else lookup name rest

/-- The members of an object; no other value has any. -/
def fields : Json → List (String × Json)
  | object fields => fields
  | _ => []

/-- The member of an object with a name. -/
def field? (json : Json) (name : String) : Option Json := lookup name json.fields

def string? : Json → Option String
  | string text => some text
  | _ => none

def bool? : Json → Option Bool
  | bool value => some value
  | _ => none

/-- An integer within bounds, both included. -/
def integer? (low high : Int) : Json → Option Int
  | integer value => if low ≤ value ∧ value ≤ high then some value else none
  | _ => none

def array? : Json → Option (List Json)
  | array items => some items
  | _ => none

/-- A natural number below `2 ^ bits`. -/
def word? (bits : Nat) (json : Json) : Option Nat :=
  (json.integer? 0 (Nat.pow 2 bits - 1)).map Int.toNat

/-- An integer that fits a signed word of the given width. -/
def signed? (bits : Nat) (json : Json) : Option Int :=
  let half : Int := Nat.pow 2 (bits - 1)
  json.integer? (-half) (half - 1)

/-- An array whose items can all be read. -/
def listOf? {α : Type} (read : Json → Option α) (json : Json) : Option (List α) := do
  let items ← json.array?
  items.mapM read

/-- The members of an object, all of whose values can be read; of a repeated name the last counts.
-/
def mapOf? {α : Type} (read : Json → Option α) : Json → Option (StringMap α)
  | object fields => do
      let entries ← fields.mapM fun field => (read field.2).map (field.1, ·)
      pure (SortedMap.ofList entries)
  | _ => none

/-- A map of texts as an object. -/
def ofTexts (map : StringMap String) : Json :=
  object (map.entries.map fun entry => (entry.1, string entry.2))

/-- A list of texts as an array. -/
def ofTextList (texts : List String) : Json := array (texts.map string)

/-- A member that is left out where there is no value. -/
def optionalField {α : Type} (name : String) (write : α → Json) : Option α → List (String × Json)
  | none => []
  | some value => [(name, write value)]

/-- A value that is `null` where there is none. -/
def orNull {α : Type} (write : α → Json) : Option α → Json
  | none => null
  | some value => write value

mutual

/-- The same document with the members of every object in ascending order of their names, each name
once, with its last value. -/
def canonical : Json → Json
  | array items => array (canonicalItems items)
  | object fields => object (SortedMap.ofList (canonicalFields fields)).entries
  | other => other

/-- The canonical forms of the items of an array. -/
def canonicalItems : List Json → List Json
  | [] => []
  | item :: rest => canonical item :: canonicalItems rest

/-- Members with their values in canonical form. -/
def canonicalFields : List (String × Json) → List (String × Json)
  | [] => []
  | (name, value) :: rest => (name, canonical value) :: canonicalFields rest

end

/-! ### Equality -/

mutual

/-- Whether two documents are the same, with their members in the same order. -/
def same : Json → Json → Bool
  | null, null => true
  | bool left, bool right => left = right
  | integer left, integer right => left = right
  | decimal left leftExponent, decimal right rightExponent =>
      left = right && leftExponent = rightExponent
  | string left, string right => left = right
  | array left, array right => sameItems left right
  | object left, object right => sameFields left right
  | _, _ => false

/-- Whether two lists of documents are the same. -/
def sameItems : List Json → List Json → Bool
  | [], [] => true
  | left :: lefts, right :: rights => same left right && sameItems lefts rights
  | _, _ => false

/-- Whether two lists of members are the same. -/
def sameFields : List (String × Json) → List (String × Json) → Bool
  | [], [] => true
  | (leftName, left) :: lefts, (rightName, right) :: rights =>
      leftName = rightName && same left right && sameFields lefts rights
  | _, _ => false

end

mutual

theorem same_iff (left right : Json) : same left right = true ↔ left = right := by
  cases left with
  | array lefts => cases right <;> simp [same, sameItems_iff lefts]
  | object lefts => cases right <;> simp [same, sameFields_iff lefts]
  | _ => cases right <;> simp [same]

theorem sameItems_iff (lefts rights : List Json) :
    sameItems lefts rights = true ↔ lefts = rights := by
  cases lefts with
  | nil => cases rights <;> simp [sameItems]
  | cons left lefts => cases rights <;> simp [sameItems, same_iff left, sameItems_iff lefts]

theorem sameFields_iff (lefts rights : List (String × Json)) :
    sameFields lefts rights = true ↔ lefts = rights := by
  cases lefts with
  | nil => cases rights <;> simp [sameFields]
  | cons left lefts =>
      rcases left with ⟨name, left⟩
      cases rights with
      | nil => simp [sameFields]
      | cons right rights =>
          simp [sameFields, same_iff left, sameFields_iff lefts, Prod.ext_iff, and_assoc]

end

instance : DecidableEq Json := fun left right => decidable_of_iff _ (same_iff left right)

end Json

end ClusterOperator
