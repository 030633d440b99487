import ClusterOperator.Json.MergePatch
import ClusterOperator.Object.Metadata

/-!
# Patches

What a pass changes of an object, as the difference between the object that it read and the one that
it leaves. A patch is bound to the version that was read, so that a pass on an outdated object
cannot overwrite what somebody else wrote.

A patch is sent in two parts, because the API server takes the status of an object apart from the
rest. Both parts are merge patches.
-/

namespace ClusterOperator

/-- The changes of a pass. -/
structure ObjectPatch (Status : Type) where
  /-- The version that the pass read. -/
  resourceVersion : Option String
  /-- The new finalizers, if they changed. -/
  finalizers : Option (List String)
  /-- The new status, if it changed. -/
  status : Option Status
  deriving DecidableEq

namespace ObjectPatch

variable {Spec Status : Type}

/-- The difference between an object before and after a pass. Unset finalizers are the same as
none, and a status is never taken away. -/
def between [DecidableEq Status] (before after : Resource Spec Status) : ObjectPatch Status where
  resourceVersion := before.metadata.resourceVersion
  finalizers :=
    if after.metadata.finalizerList = before.metadata.finalizerList then none
    else some after.metadata.finalizerList
  status := if after.status = before.status then none else after.status

/-- Whether nothing changed. -/
def isEmpty (patch : ObjectPatch Status) : Bool :=
  patch.finalizers.isNone && patch.status.isNone

/-- The part for the metadata, if the finalizers changed. -/
def metadataMergePatch (patch : ObjectPatch Status) : Option Json :=
  patch.finalizers.map fun finalizers =>
    .object
      [("metadata", .object
        [("resourceVersion", Json.orNull .string patch.resourceVersion),
          ("finalizers", Json.ofTextList finalizers)])]

/-- The part for the status, if it changed, bound to a version. -/
def statusMergePatch (writeStatus : Status → Json) (resourceVersion : Option String)
    (patch : ObjectPatch Status) : Option Json :=
  patch.status.map fun status =>
    .object
      [("metadata", .object [("resourceVersion", Json.orNull .string resourceVersion)]),
        ("status", writeStatus status)]

end ObjectPatch

end ClusterOperator
