import ClusterOperator.Instant.Basic
import ClusterOperator.Json.Basic

/-!
# Objects

What an object is called, and what all objects of the API server have in common.
-/

namespace ClusterOperator

/-! ## Object keys

The name of an object together with the Kubernetes namespace that it lives in. Keys are ordered by
the namespace, then by the name.
-/

/-- The Kubernetes namespace and the name of an object. -/
structure ObjectKey where
  ns : String
  name : String
  deriving DecidableEq, Inhabited

namespace ObjectKey

/-- The written form `namespace/name`. -/
def text (key : ObjectKey) : String := key.ns ++ "/" ++ key.name

instance : Ord ObjectKey where
  compare := compareLex (compareOn ns) (compareOn name)

instance : Std.TransOrd ObjectKey :=
  inferInstanceAs (Std.TransCmp (compareLex (compareOn ns) (compareOn name)))

instance : Std.LawfulEqOrd ObjectKey where
  eq_of_compare {left right} same := by
    obtain ⟨sameNs, sameName⟩ := compareLex_eq_eq.mp same
    cases left; cases right
    cases Std.LawfulEqOrd.eq_of_compare sameNs
    cases Std.LawfulEqOrd.eq_of_compare sameName
    rfl

end ObjectKey

/-! ## Objects

What all objects of the API server have in common: identity, versions, labels, owners, and what
holds up their deletion. A field that is unset differs from one that is set to nothing. What else
the API server notes about an object is kept as it was read, under `rest`.
-/

/-- A reference from an object to one of its owners. -/
structure OwnerReference where
  apiVersion : String := ""
  kind : String := ""
  name : String := ""
  uid : String := ""
  controller : Option Bool := none
  blockOwnerDeletion : Option Bool := none
  deriving DecidableEq

/-- The metadata of an object. -/
structure Metadata where
  name : Option String := none
  generateName : Option String := none
  ns : Option String := none
  uid : Option String := none
  resourceVersion : Option String := none
  generation : Option Int := none
  labels : Option (StringMap String) := none
  annotations : Option (StringMap String) := none
  finalizers : Option (List String) := none
  ownerReferences : Option (List OwnerReference) := none
  deletionTimestamp : Option Instant := none
  rest : List (String × Json) := []
  deriving DecidableEq, Inhabited

namespace Metadata

/-- The name, or what the name is to be generated from. -/
def anyName (metadata : Metadata) : String :=
  (metadata.name.or metadata.generateName).getD ""

/-- The key under which the object is looked up. -/
def key (metadata : Metadata) : ObjectKey := ⟨metadata.ns.getD "", metadata.anyName⟩

/-- The key under which the object is stored, which takes no generated name. -/
def storageKey (metadata : Metadata) : ObjectKey :=
  ⟨metadata.ns.getD "", metadata.name.getD ""⟩

/-- The finalizers; none where they are unset. -/
def finalizerList (metadata : Metadata) : List String := metadata.finalizers.getD []

/-- Whether deletion was requested. -/
def isDeleting (metadata : Metadata) : Bool := metadata.deletionTimestamp.isSome

end Metadata

/-- A custom resource: metadata, what the user asks for, and what was observed. -/
structure Resource (Spec Status : Type) where
  metadata : Metadata
  spec : Spec
  status : Option Status
  deriving DecidableEq

namespace Resource

variable {Spec Status : Type}

/-- The key under which the object is looked up. -/
def key (resource : Resource Spec Status) : ObjectKey := resource.metadata.key

def name (resource : Resource Spec Status) : String := resource.metadata.anyName

/-- The Kubernetes namespace of the object. -/
def ns (resource : Resource Spec Status) : String := resource.metadata.ns.getD ""

end Resource

end ClusterOperator
