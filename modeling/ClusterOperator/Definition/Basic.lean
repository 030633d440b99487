import ClusterOperator.Json.Basic
import ClusterOperator.Object.Document

/-!
# Resource definitions

The document with which the API server learns of a kind of custom resources: its names, the columns
that a list shows, and the schema of its objects.
-/

namespace ClusterOperator

/-! ## Schemas

What a document may look like, with words for its readers. A property that has to be there is marked
so in the record that it belongs to.
-/

/-- What a schema says besides the form of a value. -/
structure SchemaNotes where
  description : Option String := none
  /-- Whether the value may also be `null`. -/
  nullable : Bool := false
  /-- The value that counts where there is none. -/
  fallback : Option Json := none

/-- The form of a value. -/
inductive Schema where
  | text (notes : SchemaNotes)
  /-- One of some words. -/
  | word (notes : SchemaNotes) (words : List String)
  /-- A time stamp. -/
  | time (notes : SchemaNotes)
  /-- A whole number of 32 bits. -/
  | number (notes : SchemaNotes)
  | truth (notes : SchemaNotes)
  | list (notes : SchemaNotes) (items : Schema)
  /-- An object with any names. -/
  | map (notes : SchemaNotes) (values : Schema)
  /-- An object with known names; the flag says whether a property has to be there. -/
  | record (notes : SchemaNotes) (properties : List (String × Bool × Schema))

namespace SchemaNotes

/-- The members of a schema that hold its notes. -/
def fields (notes : SchemaNotes) : List (String × Json) :=
  Json.optionalField "description" .string notes.description ++
  (if notes.nullable then [("nullable", .bool true)] else []) ++
  Json.optionalField "default" id notes.fallback

end SchemaNotes

namespace Schema

/-- The members of a schema of a type. -/
def document (type : String) (notes : SchemaNotes) (further : List (String × Json)) : Json :=
  .object (notes.fields ++ ("type", .string type) :: further)

/-- The names of the properties that have to be there. -/
def requiredNames (properties : List (String × Bool × Schema)) : List String :=
  (properties.filter fun property => property.2.1).map Prod.fst

/-- The list of required names, which is left out where it is empty. -/
def requiredField (names : List String) : List (String × Json) :=
  if names = [] then [] else [("required", Json.ofTextList names)]

mutual

/-- A schema as a document. -/
def toJson : Schema → Json
  | text notes => document "string" notes []
  | word notes words => document "string" notes [("enum", Json.ofTextList words)]
  | time notes => document "string" notes [("format", .string "date-time")]
  | number notes => document "integer" notes [("format", .string "int32")]
  | truth notes => document "boolean" notes []
  | list notes items => document "array" notes [("items", toJson items)]
  | map notes values => document "object" notes [("additionalProperties", toJson values)]
  | record notes properties =>
      document "object" notes
        (("properties", .object (propertiesToJson properties)) ::
          requiredField (requiredNames properties))

/-- The schemas of properties as members of a document. -/
def propertiesToJson : List (String × Bool × Schema) → List (String × Json)
  | [] => []
  | (name, _, schema) :: rest => (name, toJson schema) :: propertiesToJson rest

end

/-! ### Properties of records -/

/-- A property that has to be there. -/
def needed (name : String) (schema : Schema) : String × Bool × Schema := (name, true, schema)

/-- A property that may be left out. -/
def optional (name : String) (schema : Schema) : String × Bool × Schema := (name, false, schema)

/-- Notes that only describe. -/
def note (description : String) : SchemaNotes := { description }

/-- Notes of a value that may be unset. -/
def unset (description : String) : SchemaNotes := { description, nullable := true }

/-- Notes of a switch that is off where nothing is said. -/
def off (description : String) : SchemaNotes := { description, fallback := some (.bool false) }

end Schema

/-! ## Definitions -/

/-- A column of a list of objects. -/
structure Column where
  name : String
  type : String
  /-- Where the value stands in an object. -/
  path : String

namespace Column

/-- A column as a document. -/
def toJson (column : Column) : Json :=
  .object
    [("jsonPath", .string column.path), ("name", .string column.name),
      ("type", .string column.type)]

/-- The column that shows whether an object is ready. -/
def ready : Column :=
  { name := "Ready", type := "string", path := ".status.conditions[?(@.type==\"Ready\")].status" }

/-- The column that shows how old an object is. -/
def age : Column := { name := "Age", type := "date", path := ".metadata.creationTimestamp" }

end Column

/-- The definition of a kind of custom resources. -/
structure Definition where
  kind : String
  /-- The name of one object on a command line, which with an `s` names all of them. -/
  singular : String
  shortName : String
  columns : List Column
  spec : Schema
  status : Schema

namespace Definition

/-- The group of the custom resources. -/
def group : String := "temporal.io"

/-- The version of the custom resources. -/
def version : String := "v1beta1"

/-- The name of all objects on a command line. -/
def plural (definition : Definition) : String := definition.singular ++ "s"

/-- The schema of an object. -/
def schema (definition : Definition) : Schema :=
  .record
    (Schema.note <|
      "Auto-generated derived type for " ++ definition.kind ++ "Spec via " ++
        "\x60CustomResource\x60")
    [Schema.needed "spec" definition.spec, Schema.optional "status" definition.status]

/-- The names of a kind as a document. -/
def namesToJson (definition : Definition) : Json :=
  .object
    [("categories", .array []), ("kind", .string definition.kind),
      ("plural", .string definition.plural),
      ("shortNames", Json.ofTextList [definition.shortName]),
      ("singular", .string definition.singular)]

/-- The schema of an object as a document, which bears the name of the kind. -/
def schemaToJson (definition : Definition) : Json :=
  .object (("title", .string definition.kind) :: definition.schema.toJson.fields)

/-- The one version of a kind as a document. -/
def versionToJson (definition : Definition) : Json :=
  .object
    [("additionalPrinterColumns", .array (definition.columns.map Column.toJson)),
      ("name", .string version),
      ("schema", .object [("openAPIV3Schema", definition.schemaToJson)]),
      ("served", .bool true), ("storage", .bool true),
      ("subresources", .object [("status", .object [])])]

/-- A definition as a document, with all members in the order of their names. -/
def toJson (definition : Definition) : Json :=
  Json.canonical <| .object
    [("apiVersion", .string "apiextensions.k8s.io/v1"),
      ("kind", .string "CustomResourceDefinition"),
      ("metadata", .object [("name", .string (definition.plural ++ "." ++ group))]),
      ("spec", .object
        [("group", .string group), ("names", definition.namesToJson),
          ("scope", .string "Namespaced"),
          ("versions", .array [definition.versionToJson])])]

end Definition

def Condition.schema : Schema :=
  .record (Schema.note "Kubernetes-style condition for status reporting")
    [Schema.needed "lastTransitionTime"
        (.time (Schema.note "Last time the condition status changed")),
      Schema.optional "message"
        (.text { Schema.note "Human-readable message" with fallback := some (.string "") }),
      Schema.needed "reason" (.text (Schema.note "Machine-readable reason for the condition")),
      Schema.needed "status"
        (.word (Schema.note "Status of the condition (True, False, Unknown)")
          ["True", "False", "Unknown"]),
      Schema.needed "type"
        (.text (Schema.note "Type of condition (e.g., Ready, ReconcileError)"))]

end ClusterOperator
