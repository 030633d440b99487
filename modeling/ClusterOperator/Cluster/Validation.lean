import ClusterOperator.Cluster.Spec
import ClusterOperator.Error

/-!
# Validation of cluster specs

The ports that a service sets lie between 1 and 65535 and differ from one another, and its replicas
are not negative. The first rule that a spec breaks is reported: in the order of the services, and
within a service in the order of the fields.
-/

namespace ClusterOperator

/-- The fields of a service that hold a port. -/
inductive PortField where
  | port
  | membershipPort
  | httpPort
  deriving DecidableEq

/-- The name of a field. -/
def PortField.text : PortField → String
  | port => "port"
  | membershipPort => "membershipPort"
  | httpPort => "httpPort"

/-- How a spec breaks a rule. -/
inductive SpecProblem where
  | portOutOfRange (role : Role) (field : PortField) (port : Int)
  | portReused (role : Role) (field : PortField) (port : Int) (first : PortField)
  | negativeReplicas (role : Role) (replicas : Int)
  deriving DecidableEq

/-- The words for a problem. -/
def SpecProblem.text : SpecProblem → String
  | portOutOfRange role field port =>
      "services." ++ role.text ++ "." ++ field.text ++ " must be between 1 and 65535, got " ++
        toString port
  | portReused role field port first =>
      "services." ++ role.text ++ "." ++ field.text ++ " reuses port " ++ toString port ++
        " already assigned to " ++ first.text
  | negativeReplicas role replicas =>
      "services." ++ role.text ++ ".replicas must not be negative, got " ++ toString replicas

namespace RoleSpec

/-- The ports of a service in the order of their fields. -/
def ports (settings : RoleSpec) : List (PortField × Option Int) :=
  [(.port, settings.port), (.membershipPort, settings.membershipPort),
    (.httpPort, settings.httpPort)]

/-- The first problem among ports, given the ports that come before them. -/
def portProblem? (role : Role) (seen : List (PortField × Int)) :
    List (PortField × Option Int) → Option SpecProblem
  | [] => none
  | (_, none) :: rest => portProblem? role seen rest
  | (field, some port) :: rest =>
      if 1 ≤ port ∧ port ≤ 65535 then
        match seen.find? fun earlier => earlier.2 = port with
        | some earlier => some (.portReused role field port earlier.1)
        | none => portProblem? role (seen ++ [(field, port)]) rest
      else some (.portOutOfRange role field port)

/-- The first problem of a service. -/
def problem? (role : Role) (settings : RoleSpec) : Option SpecProblem :=
  (portProblem? role [] settings.ports).or <|
    settings.replicas.bind fun replicas =>
      if replicas < 0 then some (.negativeReplicas role replicas) else none

end RoleSpec

namespace ClusterSpec

/-- The first problem of a spec. -/
def problem? (spec : ClusterSpec) : Option SpecProblem :=
  Role.all.findSome? fun role => (spec.role? role).bind (·.problem? role)

/-- Accepts a spec without problems; the error names the object that the spec belongs to. -/
def validate (object : String) (spec : ClusterSpec) : Except Error Unit :=
  match spec.problem? with
  | none => .ok ()
  | some problem => .error (.validation object problem.text)

end ClusterSpec

end ClusterOperator
