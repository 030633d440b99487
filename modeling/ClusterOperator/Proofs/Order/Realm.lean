import ClusterOperator.Proofs.Cluster.Interruption
import ClusterOperator.Proofs.Condition.Settled
import ClusterOperator.Proofs.Order.Upkeep

/-!
# Passes one after the other

A realm is all that passes see and change: the store, what the operator keeps, and what the servers
keep of each namespace. A pass that is local reads and writes some places of it only. Two passes
neither of which writes what the other one reads come to the same in both orders, but for the
versions and the times that they write.
-/

namespace ClusterOperator

variable {ρ : Type}

/-- What servers do. They keep a state for each namespace, and a request is about one of them. -/
structure Backend (ρ : Type) where
  connect : Cluster → Except Error Unit
  answer : Cluster → (request : ServerRequest) → ρ → Except Error request.Answer × ρ

/-- All that there is between two passes. -/
structure Realm (ρ : Type) where
  store : Store
  operator : OperatorState
  /-- The state of each namespace on the server of each cluster. -/
  remote : ObjectKey → String → ρ

namespace Realm

/-- The realm with one namespace of one server in another state. -/
def putRemote (realm : Realm ρ) (cluster : ObjectKey) (name : String) (state : ρ) : Realm ρ :=
  { realm with
    remote := fun other target =>
      if cluster = other ∧ name = target then state else realm.remote other target }

end Realm

namespace Backend

variable (backend : Backend ρ)

def call : (request : Request) → Realm ρ → Except Error request.Answer × Realm ρ
  | .store request, realm =>
      ((realm.store.answer request).1, { realm with store := (realm.store.answer request).2 })
  | .connect cluster, realm => (backend.connect cluster, realm)
  | .server cluster request, realm =>
      let reply := backend.answer cluster request (realm.remote cluster.key request.target)
      (reply.1, realm.putRemote cluster.key request.target reply.2)
  | .close _, realm => (.ok (), realm)

/-- A realm in which nobody else does anything and no deadline strikes. -/
def environment : Environment (Realm ρ) where
  note entry realm := { realm with operator := realm.operator.take entry }
  call := backend.call
  timed request realm := (some (backend.call request realm).1, (backend.call request realm).2)

/-- Runs a pass to its end. Where it fails, the operator counts one more failure of the object. -/
def pass (settings : Settings) (subject : Subject) (now : Instant) (realm : Realm ρ) :
    Except Error Action × Realm ρ :=
  match (subject.program settings now).run backend.environment realm with
  | (.ok action, later) => (.ok action, later)
  | (.error error, later) =>
      (.error error, { later with operator := later.operator.fail subject.failureKey })

end Backend

/-! ### Versions and times -/

/-- The metadata without the version. -/
def Metadata.unversioned (metadata : Metadata) : Metadata :=
  { metadata with resourceVersion := none }

namespace Resource

variable {Spec Status : Type} [HasConditions Status]

/-- The status without times. -/
def undate (status : Status) : Status :=
  HasConditions.withConditions status
    ((HasConditions.conditions status).map Condition.undated)

/-- The object without its version and without times in its status. -/
def essence (resource : Resource Spec Status) : Resource Spec Status where
  metadata := resource.metadata.unversioned
  spec := resource.spec
  status := resource.status.map undate

end Resource

/-! ### Places -/

/-- Where something is kept. -/
inductive Place where
  | cluster (key : ObjectKey)
  | ns (key : ObjectKey)
  | child (key : ChildKey)
  /-- A namespace on the server of a cluster. -/
  | remote (cluster : ObjectKey) (name : String)

namespace Realm

variable {realm later other last : Realm ρ} {place : Place}

/-- Both realms keep the same in a place. -/
def SameAt (realm later : Realm ρ) : Place → Prop
  | .cluster key => later.store.clusters.get? key = realm.store.clusters.get? key
  | .ns key => later.store.namespaces.get? key = realm.store.namespaces.get? key
  | .child key => later.store.children.get? key = realm.store.children.get? key
  | .remote cluster name => later.remote cluster name = realm.remote cluster name

/-- Both realms keep the same in a place, but for versions and times. -/
def AlikeAt (realm later : Realm ρ) : Place → Prop
  | .cluster key =>
      (later.store.clusters.get? key).map Resource.essence =
        (realm.store.clusters.get? key).map Resource.essence
  | .ns key =>
      (later.store.namespaces.get? key).map Resource.essence =
        (realm.store.namespaces.get? key).map Resource.essence
  | .child key =>
      (later.store.children.get? key).map Child.unversioned =
        (realm.store.children.get? key).map Child.unversioned
  | .remote cluster name => later.remote cluster name = realm.remote cluster name

theorem SameAt.refl (realm : Realm ρ) (place : Place) : realm.SameAt realm place := by
  cases place <;> rfl

theorem SameAt.symm (same : realm.SameAt later place) : later.SameAt realm place := by
  cases place <;> exact Eq.symm same

theorem SameAt.trans (first : realm.SameAt later place) (second : later.SameAt last place) :
    realm.SameAt last place := by
  cases place <;> exact Eq.trans second first

theorem SameAt.alikeAt (same : realm.SameAt later place) : realm.AlikeAt later place := by
  cases place with
  | remote cluster name => exact same
  | cluster key => exact congrArg (Option.map _) same
  | ns key => exact congrArg (Option.map _) same
  | child key => exact congrArg (Option.map _) same

theorem AlikeAt.symm (alike : realm.AlikeAt later place) : later.AlikeAt realm place := by
  cases place <;> exact Eq.symm alike

theorem AlikeAt.trans (first : realm.AlikeAt later place) (second : later.AlikeAt last place) :
    realm.AlikeAt last place := by
  cases place <;> exact Eq.trans second first

/-- The same everywhere, but for versions and times, and the same index. -/
structure Alike (realm later : Realm ρ) : Prop where
  places : ∀ place, realm.AlikeAt later place
  index : later.operator.index = realm.operator.index

end Realm

/-! ### Local passes -/

/-- What a pass reads and writes, and what it comes to. -/
structure Footprint (ρ : Type) where
  reads : Place → Prop
  writes : Place → Prop
  result : Except Error Action
  upkeep : List Upkeep
  /-- A realm that is alike to the one after the pass wherever the pass has written. -/
  left : Realm ρ

/-- Whenever it is made, and whatever there is elsewhere, a pass comes to the same. -/
structure Footprint.Fits (footprint : Footprint ρ) (subject : Subject) (start : Realm ρ)
    (pass : Instant → Realm ρ → Except Error Action × Realm ρ) : Prop where
  within : ∀ place, footprint.writes place → footprint.reads place
  upkeep : ∀ upkeep ∈ footprint.upkeep, upkeep.IsOf subject
  result {now : Instant} {realm : Realm ρ}
    (same : ∀ place, footprint.reads place → start.SameAt realm place) :
    (pass now realm).1 = footprint.result
  others {now : Instant} {realm : Realm ρ}
    (same : ∀ place, footprint.reads place → start.SameAt realm place)
    (place : Place) (other : ¬ footprint.writes place) : realm.SameAt (pass now realm).2 place
  written {now : Instant} {realm : Realm ρ}
    (same : ∀ place, footprint.reads place → start.SameAt realm place)
    (place : Place) (own : footprint.writes place) :
    footprint.left.AlikeAt (pass now realm).2 place
  operator {now : Instant} {realm : Realm ρ}
    (same : ∀ place, footprint.reads place → start.SameAt realm place) :
    (pass now realm).2.operator = realm.operator.keepAll footprint.upkeep

namespace Footprint.Fits

variable {left right : Footprint ρ} {one two : Subject} {start : Realm ρ}
  {pass passOther : Instant → Realm ρ → Except Error Action × Realm ρ}

/-- A pass that does not write what another one reads does not matter to it. -/
theorem same_after (fits : left.Fits one start pass)
    (apart : ∀ place, left.writes place → ¬ right.reads place) (now : Instant) (place : Place)
    (read : right.reads place) : start.SameAt (pass now start).2 place :=
  fits.others (fun place _ => .refl start place) place fun written => apart place written read

/-- Passes neither of which writes what the other one reads can be made in any order, and so can
the counting of their failures where these are counted apart. -/
theorem comm (fits : left.Fits one start pass) (fitsOther : right.Fits two start passOther)
    (ne : one ≠ two) (leftApart : ∀ place, left.writes place → ¬ right.reads place)
    (rightApart : ∀ place, right.writes place → ¬ left.reads place)
    (now later soon late : Instant) :
    let first := pass now start
    let second := passOther later first.2
    let other := passOther soon start
    let last := pass late other.2
    first.1 = last.1 ∧ second.1 = other.1 ∧ second.2.Alike last.2 ∧
      (one.failureKey ≠ two.failureKey →
        last.2.operator.failures = second.2.operator.failures) := by
  intro first second other last
  have startSame (reads : Place → Prop) (place : Place) (_ : reads place) :
      start.SameAt start place :=
    .refl start place
  have sameFirst := fits.same_after leftApart now
  have sameOther := fitsOther.same_after rightApart soon
  have done : second.2.operator =
      (start.operator.keepAll left.upkeep).keepAll right.upkeep := by
    rw [fitsOther.operator sameFirst, fits.operator (startSame _)]
  have also : last.2.operator = (start.operator.keepAll right.upkeep).keepAll left.upkeep := by
    rw [fits.operator sameOther, fitsOther.operator (startSame _)]
  have kept := Upkeep.keepAll_keepAll fitsOther.upkeep fits.upkeep ne.symm start.operator
  rw [← done, ← also] at kept
  refine ⟨?_, ?_, ⟨?_, kept.1⟩, fun apart => kept.2 apart.symm⟩
  · exact (fits.result (startSame _)).trans (fits.result sameOther).symm
  · exact (fitsOther.result sameFirst).trans (fitsOther.result (startSame _)).symm
  · intro place
    by_cases isLeft : left.writes place
    · have notRight : ¬ right.writes place := fun written =>
        leftApart place isLeft (fitsOther.within place written)
      have kept : first.2.AlikeAt second.2 place :=
        (fitsOther.others sameFirst place notRight).alikeAt
      have done : left.left.AlikeAt first.2 place := fits.written (startSame _) place isLeft
      exact (done.trans kept).symm.trans (fits.written sameOther place isLeft)
    · have kept : other.2.AlikeAt last.2 place := (fits.others sameOther place isLeft).alikeAt
      by_cases isRight : right.writes place
      · have done : right.left.AlikeAt second.2 place :=
          fitsOther.written sameFirst place isRight
        have also : right.left.AlikeAt other.2 place :=
          fitsOther.written (startSame _) place isRight
        exact done.symm.trans (also.trans kept)
      · have untouched : start.SameAt second.2 place :=
          (fits.others (startSame _) place isLeft).trans
            (fitsOther.others sameFirst place isRight)
        have also : start.SameAt other.2 place := fitsOther.others (startSame _) place isRight
        exact untouched.symm.alikeAt.trans (also.alikeAt.trans kept)

end Footprint.Fits

/-! ### What is whose -/

/-- Every object stands under its own key. -/
structure Store.Named (store : Store) : Prop where
  clusters : Filed store.clusters
  /-- A cluster without a name is not known by the one that it is to get. -/
  clusterKeys : ∀ key cluster, store.clusters.get? key = some cluster → cluster.key = key
  namespaces : ∀ key ns, store.namespaces.get? key = some ns → ns.key = key
  children : store.ChildrenFiled

namespace Subject

/-- Where the pass over an object writes: the object itself, the children that its builders name,
and what the server of its cluster keeps of it. -/
inductive Writes (store : Store) : Subject → Place → Prop
  | cluster (key : ObjectKey) : Writes store (.cluster key) (.cluster key)
  | child {key : ObjectKey} {cluster : Cluster} (there : store.clusters.get? key = some cluster)
      (builder : Builder) : Writes store (.cluster key) (.child (builder.key cluster))
  | ns (key : ObjectKey) : Writes store (.ns key) (.ns key)
  | remote {key : ObjectKey} {ns : Namespace} (there : store.namespaces.get? key = some ns) :
      Writes store (.ns key) (.remote ns.clusterKey ns.name)

/-- What the pass over an object depends on: where it writes, and the cluster of a namespace. -/
inductive Reads (store : Store) : Subject → Place → Prop
  | own {subject : Subject} {place : Place} (writes : subject.Writes store place) :
      Reads store subject place
  | cluster {key : ObjectKey} {ns : Namespace} (there : store.namespaces.get? key = some ns) :
      Reads store (.ns key) (.cluster ns.clusterKey)

end Subject

/-- Passes over an object depend on, and write, what is theirs, and nothing else. -/
def Backend.Local (backend : Backend ρ) (settings : Settings) (start : Realm ρ)
    (subject : Subject) : Prop :=
  ∃ footprint : Footprint ρ,
    footprint.reads = subject.Reads start.store ∧ footprint.writes = subject.Writes start.store ∧
      footprint.Fits subject start (backend.pass settings subject)

/-- Two realms are the same in all that the pass over an object depends on. -/
def Realm.SameFor (subject : Subject) (start realm : Realm ρ) : Prop :=
  ∀ place, subject.Reads start.store place → start.SameAt realm place

theorem Realm.sameFor_refl (subject : Subject) (start : Realm ρ) : start.SameFor subject start :=
  fun place _ => .refl start place

theorem Backend.local_of_pass {backend : Backend ρ} {settings : Settings} {start : Realm ρ}
    {subject : Subject} {result : Except Error Action} {upkeep : List Upkeep}
    (next : Instant → Realm ρ → Realm ρ) (areOf : ∀ one ∈ upkeep, one.IsOf subject)
    (passes : ∀ now realm, start.SameFor subject realm → backend.pass settings subject now realm =
      (result, { next now realm with operator := realm.operator.keepAll upkeep }))
    (others : ∀ now realm, start.SameFor subject realm → ∀ place,
      ¬ subject.Writes start.store place → realm.SameAt (next now realm) place)
    (written : ∀ now realm, start.SameFor subject realm → ∀ place,
      subject.Writes start.store place → (next default start).AlikeAt (next now realm) place) :
    backend.Local settings start subject := by
  let footprint : Footprint ρ :=
    { reads := subject.Reads start.store
      writes := subject.Writes start.store
      result
      upkeep
      left := next default start }
  refine ⟨footprint, rfl, rfl, fun place own => .own own, areOf, ?_, ?_, ?_, ?_⟩
  · intro now realm same
    rw [passes now realm same]
  · intro now realm same place other
    rw [passes now realm same]
    have kept := others now realm same place other
    cases place <;> exact kept
  · intro now realm same place own
    rw [passes now realm same]
    have kept := written now realm same place own
    cases place <;> exact kept
  · intro now realm same
    rw [passes now realm same]

/-- A pass that writes nothing but what the operator keeps is local. -/
theorem Backend.local_of_idle {backend : Backend ρ} {settings : Settings} {start : Realm ρ}
    {subject : Subject} {result : Except Error Action} {upkeep : List Upkeep}
    (areOf : ∀ one ∈ upkeep, one.IsOf subject)
    (passes : ∀ now realm, start.SameFor subject realm → backend.pass settings subject now realm =
      (result, { realm with operator := realm.operator.keepAll upkeep })) :
    backend.Local settings start subject :=
  local_of_pass (fun _ realm => realm) areOf passes
    (fun _ realm _ place _ => .refl realm place)
    fun _ _ same place own => (same place (.own own)).alikeAt

end ClusterOperator
