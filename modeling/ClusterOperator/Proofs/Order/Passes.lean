import ClusterOperator.Proofs.Index.Scan
import ClusterOperator.Proofs.Namespace.Settling
import ClusterOperator.Proofs.Order.ClusterPass
import ClusterOperator.Proofs.Order.NamespacePass

/-!
# Passes in any order

Passes over different objects do not get in each other's way, unless one of them is over the cluster
that the other one needs, or both are about the same namespace on the same server. What keeps them
apart are their keys: those of the children that clusters own, of the entries in the index, and of
the counts of failures. The last ones are texts, so they keep objects apart whose written keys
differ.
-/

namespace ClusterOperator

variable {ρ : Type} {store : Store} {one two : Subject} {place : Place}

/-! ### Keys that differ -/

/-- The written form tells keys apart whose Kubernetes namespaces have no slash. -/
theorem ObjectKey.eq_of_text_eq {key other : ObjectKey} (plain : '/' ∉ key.ns.toList)
    (plainOther : '/' ∉ other.ns.toList) (same : key.text = other.text) : key = other := by
  have lists : key.ns.toList ++ '/' :: key.name.toList =
      other.ns.toList ++ '/' :: other.name.toList := by
    have lists := congrArg String.toList same
    simp only [text, String.toList_append, List.append_assoc] at lists
    exact lists
  have start {ns : List Char} (name : List Char) (plain : '/' ∉ ns) :
      (ns ++ '/' :: name).takeWhile (· ≠ '/') = ns := by
    rw [List.takeWhile_append_of_pos, List.takeWhile_cons_of_neg, List.append_nil]
    · simp
    · intro letter there
      refine decide_eq_true ?_
      rintro rfl
      exact plain there
  have ns : key.ns.toList = other.ns.toList := by
    rw [← start key.name.toList plain, lists, start _ plainOther]
  rw [ns] at lists
  have name := (List.cons.inj (List.append_cancel_left lists)).2
  cases key
  cases other
  cases String.toList_inj.mp ns
  cases String.toList_inj.mp name
  rfl

namespace Subject

theorem failureKey_cluster_ne_ns (key other : ObjectKey) :
    (cluster key).failureKey ≠ (ns other).failureKey := by
  intro same
  have lists := congrArg String.toList same
  change ("TemporalCluster/" ++ key.text).toList = ("TemporalNamespace/" ++ other.text).toList
    at lists
  rw [String.toList_append, String.toList_append] at lists
  -- the kinds differ in a letter before the first key begins
  exact absurd (congrArg (·[8]?) lists) (by simp)

/-- The written forms of the keys of two objects differ, if these are of one kind. -/
def WrittenApart : Subject → Subject → Prop
  | cluster key, cluster other => key.text ≠ other.text
  | ns key, ns other => key.text ≠ other.text
  | _, _ => True

/-- The Kubernetes namespace of an object. -/
def namespaceName : Subject → String
  | cluster key => key.ns
  | ns key => key.ns

theorem WrittenApart.failureKey_ne (apart : one.WrittenApart two) :
    one.failureKey ≠ two.failureKey := by
  cases one with
  | cluster key =>
      cases two with
      | cluster other => exact fun same => apart ((String.append_right_inj _).mp same)
      | ns other => exact failureKey_cluster_ne_ns key other
  | ns key =>
      cases two with
      | cluster other => exact (failureKey_cluster_ne_ns other key).symm
      | ns other => exact fun same => apart ((String.append_right_inj _).mp same)

/-- The passes over two objects have nothing to do with each other. -/
def Apart (store : Store) : Subject → Subject → Prop
  | cluster key, cluster other => key ≠ other
  | ns key, ns other => key ≠ other ∧ ∀ held also,
      store.namespaces.get? key = some held → store.namespaces.get? other = some also →
        held.clusterKey ≠ also.clusterKey ∨ held.name ≠ also.name
  | cluster key, ns other =>
      ∀ held, store.namespaces.get? other = some held → held.clusterKey ≠ key
  | ns key, cluster other =>
      ∀ held, store.namespaces.get? key = some held → held.clusterKey ≠ other

theorem Apart.symm (apart : one.Apart store two) : two.Apart store one := by
  cases one with
  | cluster key =>
      cases two with
      | cluster other => exact Ne.symm apart
      | ns other => exact apart
  | ns key =>
      cases two with
      | cluster other => exact apart
      | ns other =>
          refine ⟨apart.1.symm, fun held also there found => ?_⟩
          exact (apart.2 also held found there).imp Ne.symm Ne.symm

theorem Apart.ne (apart : one.Apart store two) : one ≠ two := by
  rintro rfl
  cases one with
  | cluster key => exact apart rfl
  | ns key => exact apart.1 rfl

/-- Names in Kubernetes have no slash, so different objects of one kind are written apart. -/
theorem writtenApart_of_plain (ne : one ≠ two) (plain : '/' ∉ one.namespaceName.toList)
    (plainOther : '/' ∉ two.namespaceName.toList) : one.WrittenApart two := by
  cases one with
  | cluster key =>
      cases two with
      | cluster other =>
          refine fun same => ne ?_
          rw [ObjectKey.eq_of_text_eq plain plainOther same]
      | ns other => trivial
  | ns key =>
      cases two with
      | cluster other => trivial
      | ns other =>
          refine fun same => ne ?_
          rw [ObjectKey.eq_of_text_eq plain plainOther same]

/-- Only the pass over a cluster writes children, and only those that its builders name. -/
theorem Writes.exists_cluster {subject : Subject} {child : ChildKey}
    (writes : subject.Writes store (.child child)) :
    ∃ key cluster, subject = .cluster key ∧ store.clusters.get? key = some cluster ∧
      ∃ builder : Builder, builder.key cluster = child := by
  cases writes with
  | child there builder => exact ⟨_, _, rfl, there, builder, rfl⟩

/-- Only the pass over a namespace writes what a server keeps, and only of that namespace. -/
theorem Writes.exists_ns {subject : Subject} {cluster : ObjectKey} {name : String}
    (writes : subject.Writes store (.remote cluster name)) :
    ∃ key held, subject = .ns key ∧ store.namespaces.get? key = some held ∧
      held.clusterKey = cluster ∧ held.name = name := by
  cases writes with
  | remote there => exact ⟨_, _, rfl, there, rfl, rfl⟩

/-- What one of the passes writes, the other one does not depend on. -/
theorem Apart.not_reads (apart : one.Apart store two) (named : store.Named)
    (writes : one.Writes store place) : ¬ two.Reads store place := by
  intro reads
  cases writes with
  | cluster key =>
      cases reads with
      | own also =>
          cases also
          exact apart rfl
      | cluster there => exact apart _ there rfl
  | child there builder =>
      cases reads with
      | own also =>
          rcases also.exists_cluster with ⟨key, cluster, rfl, found, other, same⟩
          have equal := (Builder.key_eq_iff.mp same).1
          rw [named.clusterKeys _ _ there, named.clusterKeys _ _ found] at equal
          exact apart equal.symm
  | ns key =>
      cases reads with
      | own also =>
          cases also
          exact apart.1 rfl
  | remote there =>
      cases reads with
      | own also =>
          rcases also.exists_ns with ⟨key, held, rfl, found, sameCluster, sameName⟩
          rcases apart.2 _ held there found with ne | ne
          · exact ne sameCluster.symm
          · exact ne sameName.symm

end Subject

/-! ### Passes -/

/-- Passes over all objects are local. -/
theorem Backend.local_subject (backend : Backend ρ) (settings : Settings) (subject : Subject)
    {start : Realm ρ} (named : start.store.Named) : backend.Local settings start subject := by
  cases subject with
  | cluster key => exact backend.local_cluster settings key named
  | ns key => exact backend.local_ns settings key named

/-- Passes that have nothing to do with each other come to the same in both orders, and leave the
same behind. Each of them changes nothing but what is its own. -/
theorem Backend.passes_in_any_order (backend : Backend ρ) (settings : Settings) {realm : Realm ρ}
    {one two : Subject} (named : realm.store.Named) (apart : one.Apart realm.store two)
    (now later soon late : Instant) :
    let first := backend.pass settings one now realm
    let second := backend.pass settings two later first.2
    let other := backend.pass settings two soon realm
    let last := backend.pass settings one late other.2
    first.1 = last.1 ∧ second.1 = other.1 ∧ second.2.Alike last.2 ∧
      (one.WrittenApart two → last.2.operator.failures = second.2.operator.failures) ∧
      ∀ subject,
        let after := (backend.pass settings subject now realm).2
        (∀ place, ¬ subject.Writes realm.store place → realm.SameAt after place) ∧
          realm.operator.KeepsOthers subject after.operator := by
  intro first second other last
  rcases backend.local_subject settings one named with ⟨left, leftReads, leftWrites, leftFits⟩
  rcases backend.local_subject settings two named with ⟨right, rightReads, rightWrites, rightFits⟩
  have leftApart (place : Place) (writes : left.writes place) : ¬ right.reads place := by
    rw [leftWrites] at writes
    rw [rightReads]
    exact apart.not_reads named writes
  have rightApart (place : Place) (writes : right.writes place) : ¬ left.reads place := by
    rw [rightWrites] at writes
    rw [leftReads]
    exact apart.symm.not_reads named writes
  rcases leftFits.comm rightFits apart.ne leftApart rightApart now later soon late with
    ⟨sameFirst, sameSecond, alike, counts⟩
  refine ⟨sameFirst, sameSecond, alike, fun texts => counts texts.failureKey_ne, fun subject => ?_⟩
  rcases backend.local_subject settings subject named with ⟨footprint, reads, writes, fits⟩
  have same (place : Place) (_ : footprint.reads place) : realm.SameAt realm place :=
    .refl realm place
  refine ⟨fun place outside => fits.others same place fun own => outside (writes ▸ own), ?_⟩
  rw [fits.operator same]
  exact Upkeep.keepsOthers_keepAll fits.upkeep realm.operator

/-- Servers in memory, with a state for every namespace. -/
def Backend.memory : Backend Server where
  connect cluster := cluster.frontendUrl.map fun _ => ()
  answer _ request server := server.answer request

/-- Two clusters, one of which has a complete spec and is ready, and a namespace on that. -/
def Realm.apps : Realm Server where
  store :=
    { clusters := .ofList [(Cluster.dev.key, .dev), (Cluster.serving.key, .serving)]
      namespaces := .ofList [(Namespace.payments.key, .payments)] }
  operator := {}
  remote _ _ := ∅

theorem Realm.named_apps : Realm.apps.store.Named where
  clusters key cluster there := by
    have filed : ∀ entry ∈ Realm.apps.store.clusters.entries,
        entry.2.metadata.storageKey = entry.1 := by decide
    exact filed _ (SortedMap.get?_eq_some_iff_mem.mp there)
  clusterKeys key cluster there := by
    have filed : ∀ entry ∈ Realm.apps.store.clusters.entries, entry.2.key = entry.1 := by decide
    exact filed _ (SortedMap.get?_eq_some_iff_mem.mp there)
  namespaces key ns there := by
    have filed : ∀ entry ∈ Realm.apps.store.namespaces.entries, entry.2.key = entry.1 := by decide
    exact filed _ (SortedMap.get?_eq_some_iff_mem.mp there)
  children key child there := by cases there

theorem Backend.passes_in_any_order_apps :
    let pass := Backend.memory.pass {}
    let one := Subject.cluster Cluster.dev.key
    let two := Subject.ns Namespace.payments.key
    let first := pass one default .apps
    let second := pass two default first.2
    let other := pass two default .apps
    let last := pass one default other.2
    first.1 = .ok .awaitChange ∧ second.1 = .ok .awaitChange ∧
      (second.2.remote Cluster.serving.key "payments").contains "payments" ∧
        second.2.Alike last.2 := by
  have apart : (Subject.cluster Cluster.dev.key).Apart Realm.apps.store
      (.ns Namespace.payments.key) := by
    intro held there
    cases there
    decide
  have order := Backend.memory.passes_in_any_order {} Realm.named_apps apart default default
    default default
  exact ⟨rfl, rfl, rfl, order.2.2.1⟩

/-- A namespace on a cluster that does not exist. -/
def Namespace.slashed : Namespace :=
  { payments with metadata := { name := some "b/c", ns := some "a" } }

/-- Nothing is stored but a namespace under some key. -/
def Realm.holding (key : ObjectKey) (ns : Namespace) : Realm Server where
  store := { namespaces := .ofList [(key, ns)] }
  operator := {}
  remote _ _ := ∅

/-- Failures are counted under written keys, so those of a namespace are forgotten when the pass
over another one, which is not there, has the same written key. And a namespace that stands under a
key that is not its own takes the entry of another one in the index. -/
theorem Backend.order_matters :
    let pass := Backend.memory.pass {}
    (let realm := Realm.holding Namespace.slashed.key .slashed
     let one := Subject.ns Namespace.slashed.key
     let two := Subject.ns ⟨"a/b", "c"⟩
     let second := pass two default (pass one default realm).2
     let last := pass one default (pass two default realm).2
     one.Apart realm.store two ∧ second.2.operator.failures.get? one.failureKey = none ∧
       last.2.operator.failures.get? one.failureKey = some 1) ∧
    let realm := Realm.holding Namespace.refunds.key .payments
    let one := Subject.ns Namespace.refunds.key
    let two := Subject.ns Namespace.payments.key
    let second := pass two default (pass one default realm).2
    let last := pass one default (pass two default realm).2
    one.Apart realm.store two ∧ one.WrittenApart two ∧
      second.2.operator.index.clusterOf.get? Namespace.payments.key = none ∧
        last.2.operator.index.clusterOf.get? Namespace.payments.key =
          some Namespace.payments.clusterKey := by
  have texts : Namespace.refunds.key.text ≠ Namespace.payments.key.text := by decide
  refine ⟨⟨⟨by decide, ?_⟩, rfl, rfl⟩, ⟨by decide, ?_⟩, texts, rfl, rfl⟩
  · intro held also there found
    cases found
  · intro held also there found
    cases found

end ClusterOperator
