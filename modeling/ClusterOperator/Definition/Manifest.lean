import ClusterOperator.Definition.Resources
import ClusterOperator.Json.Yaml

/-!
# The manifest

All definitions in one YAML text, for a user to install.
-/

namespace ClusterOperator.Definition

/-- The definitions of all custom resources. -/
def all : List Definition := [Cluster.definition, Namespace.definition]

def ofKind? (kind : String) : Option Definition :=
  all.find? fun definition => definition.kind = kind

/-- The definitions one after the other, with a line between them. -/
def manifest : String :=
  "---\n".intercalate (all.map fun definition => definition.toJson.toYaml) ++ "\n"

end ClusterOperator.Definition
