import ClusterOperator.Json.Fault

/-!
# Shapes of documents

What a document has to look like to be read as something. A text is read by its shape, which decides
what is wrong with a text that cannot be read; the document that comes of it has the members that
the shape knows, and no others.
-/

namespace ClusterOperator.Json

/-- How a record is written. -/
inductive RecordKind where
  /-- As an object with each member at most once, or as the list of its members. -/
  | strict
  /-- As an object with members that can be written again. -/
  | lenient
  /-- As an object with each member at most once, whose other members are read too. -/
  | gathering
  deriving DecidableEq

/-- Whether a member of a strict record can be left out. -/
inductive Presence where
  | required
  /-- It can be left out of an object, but not of a list. -/
  | optional
  | defaulted
  deriving DecidableEq

/-- A member of a record. -/
structure Member (σ : Type) where
  name : String
  presence : Presence
  shape : σ

/-- What a document has to look like. -/
inductive Shape where
  | anything
  | bool
  /-- An integer that fits a signed word. -/
  | signed (bits : Nat)
  /-- An integer that fits an unsigned word. -/
  | unsigned (bits : Nat)
  | text
  /-- A text in which a reader of its own finds no problem. A text can be refused as itself, or as a
  member of what it is in. -/
  | checked (refusedAsMember : Bool) (kind : String) (problem? : String → Option FaultReason)
  | numberOrText (name : String)
  /-- One of some words, or an object with that word as the name of its only member. -/
  | word (known : List String)
  | optional (shape : Shape)
  | list (item : Shape)
  | map (value : Shape)
  | record (kind : RecordKind) (name : String) (members : List (Member Shape))

namespace Member

/-- A member that has to be there. -/
def required (name : String) (shape : Shape) : Member Shape := ⟨name, .required, shape⟩

/-- A member that can be absent, but not `null`. -/
def defaulted (name : String) (shape : Shape) : Member Shape := ⟨name, .defaulted, shape⟩

/-- A member that can be absent or `null`. -/
def optional (name : String) (shape : Shape) : Member Shape := ⟨name, .defaulted, .optional shape⟩

/-- Members that can be absent, or anything. -/
def kept (names : List String) : List (Member Shape) :=
  names.map fun name => optional name .anything

end Member

namespace Shape

/-- What a record is called. -/
def title : RecordKind → String → String
  | .lenient, name => name
  | _, name => "struct " ++ name

/-- The shape of a text that has to be a certain one. -/
def exactly (expected : String) : Shape :=
  checked true "a string" fun text =>
    if text = expected then none
    else some (.notAllowed ("string " ++ Text.quote text) expected)

end Shape

end ClusterOperator.Json
