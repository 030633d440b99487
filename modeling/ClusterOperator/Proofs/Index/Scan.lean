import ClusterOperator.Proofs.Index.Upkeep
import ClusterOperator.Proofs.Run.Schedule

/-!
# Passes give the index of a full scan

After passes over all that is in the store and all that is in the index, whatever came of them, the
index is the one that a full scan of the store gives. This needs every namespace to stand under its
own key: a pass looks a namespace up under one key and lists what it finds under the key that it
names itself.
-/

namespace ClusterOperator

/-- A pass over a namespace has ended, and its first request, for the object, did not fail. -/
structure Course.Looked (course : Course) (key : ObjectKey) (found : Option Namespace) : Prop where
  about : course.subject = .ns key
  ended : ∃ result, course.rest = .done result
  read : course.history.getLast? = some (.answered (.store (.getNamespace key)) (.ok found))

/-- A namespace that is not stored. -/
def Namespace.refunds : Namespace :=
  { payments with metadata := { payments.metadata with name := some "refunds" } }

namespace DependencyIndex

/-- An index that has the one namespace under a cluster of before and the other one under the
cluster, though it is not there. -/
def outdated : DependencyIndex :=
  let moved := { Namespace.payments with
    spec := { Namespace.payments.spec with cluster := { name := "old" } } }
  (({} : DependencyIndex).upsert moved).upsert .refunds

theorem built_outdated : outdated.Built := .upserted (.upserted .start _) _

theorem eq_of_upserted {key : ObjectKey} {ns : Namespace}
    (known : (({} : DependencyIndex).upsert ns).clusterOf.contains key) : key = ns.key := by
  rw [clusterOf_upsert, SortedMap.contains, SortedMap.get?_insert] at known
  split at known
  · exact Eq.symm ‹_›
  · cases known

theorem eq_of_outdated {key : ObjectKey} (known : outdated.clusterOf.contains key) :
    key = Namespace.payments.key ∨ key = Namespace.refunds.key := by
  rw [outdated, clusterOf_upsert, clusterOf_upsert, SortedMap.contains, SortedMap.get?_insert,
    SortedMap.get?_insert] at known
  split at known
  · exact .inr (Eq.symm ‹_›)
  · split at known
    · exact .inl (Eq.symm ‹_›)
    · cases known

end DependencyIndex

namespace Situation

/-- What holds all along, from a store and an index on. -/
structure Upkept (first : Store) (initial : DependencyIndex) (situation : Situation)
    (index : DependencyIndex) : Prop where
  keyed : situation.store.Keyed
  gone : ∀ key, situation.store.namespaces.get? key = none → first.namespaces.get? key = none
  consistent : index.Consistent
  courses : ∀ course ∈ situation.courses, course.Upkeep first situation.store index
  unlisted : ∀ key, initial.clusterOf.get? key = none →
    situation.store.namespaces.get? key = none → index.clusterOf.get? key = none

variable {first : Store} {initial : DependencyIndex} {before after finish : Situation}
  {state final : OperatorState} {events : List Event} {event : Event} {key : ObjectKey}

theorem Holding.absent (holding : before.Holding event after)
    (absent : after.store.namespaces.get? key = none) :
    before.store.namespaces.get? key = none := by
  cases stored : before.store.namespaces.get? key with
  | none => rfl
  | some held =>
      rcases holding.stays key held stored with ⟨later, isLater, _⟩
      cases absent.symm.trans isLater

theorem Upkept.step (upkept : before.Upkept first initial state.index)
    (step : Step before event after) (holding : before.HoldingKeyed event after) :
    after.Upkept first initial (state.after before event).index := by
  rcases step.keeps_or_notes state with
    ⟨asks, same⟩ | ⟨pass, course, entry, rest, rfl, there, todo, same, rfl⟩
  · rw [same]
    refine ⟨holding.keyed, ?_, upkept.consistent, ?_, ?_⟩
    · exact fun key absent => upkept.gone key (holding.toHolding.absent absent)
    · intro course among
      refine Course.Upkeep.holding ?_ holding.toHolding among
      rcases step.course_cases among with earlier | ⟨untaken, settings, now, start⟩ |
        ⟨earlier, pass, turn, rfl, found, takes⟩
      · exact upkept.courses course earlier
      · exact Course.upkeep_of_begun untaken start
      · refine (upkept.courses earlier (List.mem_of_getElem? found)).takes upkept.keyed upkept.gone
          takes ?_
        rintro rfl
        exact asks pass rfl
    · exact fun key unknown absent => upkept.unlisted key unknown (holding.toHolding.absent absent)
  · rw [same]
    have upkeep := upkept.courses course (List.mem_of_getElem? there)
    have fits := upkeep.fits todo
    refine ⟨holding.keyed, upkept.gone, Note.consistent_take upkept.consistent, ?_, ?_⟩
    · intro other among
      rcases List.mem_or_eq_of_mem_set among with earlier | rfl
      · exact (upkept.courses other earlier).take fits
      · exact upkeep.note todo
    · intro key unknown absent
      exact fits.unlisted_of_absent absent (upkept.unlisted key unknown absent)

theorem Keeping.upkept (keeping : Keeping HoldingKeyed { store := first } state events finish final)
    (keyed : first.Keyed) (consistent : state.index.Consistent) :
    finish.Upkept first state.index final.index := by
  induction keeping with
  | refl =>
      refine ⟨keyed, fun _ absent => absent, consistent, ?_, fun _ unknown _ => unknown⟩
      rintro course ⟨⟩
  | step keeping step holding ih => exact ih.step step holding

/-- Where a pass has looked, the index is right; but not if the namespace was created later. -/
theorem Upkept.agrees_of_looked {index : DependencyIndex} {course : Course}
    {found : Option Namespace} (upkept : finish.Upkept first initial index)
    (among : course ∈ finish.courses) (looked : course.Looked key found)
    (known : found = none → (∃ held, finish.store.namespaces.get? key = some held) →
      ∃ held, first.namespaces.get? key = some held) :
    index.Agrees finish.store key := by
  rcases looked with ⟨about, ⟨result, ended⟩, read⟩
  cases upkept.courses course among with
  | cluster isCluster silent => cases about.symm.trans isCluster
  | fresh isNamespace untaken todo failed notes => cases ended.symm.trans todo
  | failed isNamespace failed silent =>
      cases about.symm.trans isNamespace
      cases read.symm.trans failed
  | found isNamespace isRead todo silent named fits seen => cases ended.symm.trans todo
  | noted isNamespace isRead silent seen agrees =>
      cases about.symm.trans isNamespace
      cases read.symm.trans isRead
      rcases agrees with agrees | ⟨rfl, stored⟩
      · exact agrees
      · rcases known rfl stored with ⟨held, atFirst⟩
        cases seen.symm.trans atFirst

theorem holding_of_store_eq (same : after.store = before.store) : before.Holding event after := by
  refine ⟨fun key held stored => ⟨held, ?_, rfl⟩, fun key held absent stored => ?_⟩
  · rw [same]
    exact stored
  · rw [same, absent] at stored
    cases stored

theorem holdingKeyed_of_store_eq (keyed : before.store.Keyed) (same : after.store = before.store) :
    before.HoldingKeyed event after where
  toHolding := holding_of_store_eq same
  keyed := by
    rw [same]
    exact keyed

/-- As long as a pass writes nothing to the store, it goes on by the rule. -/
theorem exists_holding_advances (servers : Servers) (pass steps : Nat) (situation : Situation)
    (keyed : situation.store.Keyed) (idle : ∀ step ≤ steps,
      (situation.advances servers pass step).store = situation.store) :
    ∃ events, Run HoldingKeyed situation events (situation.advances servers pass steps) := by
  refine exists_run_advances fun step less turn _ => ?_
  have now := idle step (Nat.le_of_lt less)
  have next := idle (step + 1) less
  rw [← now] at keyed
  exact holdingKeyed_of_store_eq keyed (next.trans now.symm)

/-! ### An index that is out of date -/

/-- Passes over both namespaces have begun. -/
def both : Situation :=
  { store := (ofObjects .unreported .payments).store
    courses := (ofObjects .unreported .payments).courses ++
      [{ subject := .ns Namespace.refunds.key
         rest := (Subject.ns Namespace.refunds.key).program {} default }] }

/-- The pass over the namespace that is not stored has found that and ended. -/
def missed : Situation :=
  { store := (ofObjects .unreported .payments).store
    courses := (ofObjects .unreported .payments).courses ++
      [{ subject := .ns Namespace.refunds.key
         history := [.answered (.store (.getNamespace Namespace.refunds.key)) (.ok none)]
         rest := .done (.ok .awaitChange) }] }

theorem eq_payments_of_stored {held : Namespace}
    (stored : (ofObjects .unreported .payments).store.namespaces.get? key = some held) :
    key = Namespace.payments.key ∧ held.key = key := by
  have table : (ofObjects .unreported .payments).store.namespaces =
      SortedMap.empty.insert Namespace.payments.key
        ((({} : Store).insertCluster .unreported).2.insertNamespace .payments).1 := rfl
  rw [table, SortedMap.get?_insert] at stored
  split at stored
  · rename_i same
    cases stored
    exact ⟨same.symm, same⟩
  · cases stored

theorem keyed_payments : (ofObjects .unreported .payments).store.Keyed :=
  fun _ _ stored => (eq_payments_of_stored stored).2

/-- Passes over both namespaces go on by the rule until they end. -/
theorem exists_run_missed :
    ∃ events, Run HoldingKeyed { store := (ofObjects .unreported .payments).store } events
      (missed.advances .obliging 0 4) := by
  have first : Run HoldingKeyed { store := (ofObjects .unreported .payments).store } [.began 0]
      (ofObjects .unreported .payments) :=
    .step .refl (.begin _ (.ns Namespace.payments.key) {} default)
      (holdingKeyed_of_store_eq keyed_payments rfl)
  have second : Run HoldingKeyed { store := (ofObjects .unreported .payments).store }
      [.began 0, .began 1] both :=
    first.step (.begin _ (.ns Namespace.refunds.key) {} default)
      (holdingKeyed_of_store_eq keyed_payments rfl)
  have misses : ∃ events, Run HoldingKeyed both events missed := by
    refine exists_holding_advances .obliging 1 3 both keyed_payments fun step few => ?_
    rcases step with _ | _ | _ | _ | _
    · rfl
    · rfl
    · rfl
    · rfl
    · omega
  have finds : ∃ events, Run HoldingKeyed missed events (missed.advances .obliging 0 4) := by
    refine exists_holding_advances .obliging 0 4 missed keyed_payments fun step few => ?_
    rcases step with _ | _ | _ | _ | _ | _
    · rfl
    · rfl
    · rfl
    · rfl
    · rfl
    · omega
  rcases misses with ⟨missing, misses⟩
  rcases finds with ⟨finding, finds⟩
  exact ⟨_, (second.trans misses).trans finds⟩

/-! ### After passes over all there is -/

/-- Where every namespace stands under its own key, then whatever the index says in the beginning,
once there was a pass over every namespace that is stored and over every one that is only in the
index, in whatever order and whatever came of them, the index is the one that a scan of the store
gives, and a change of a cluster wakes exactly the namespaces that name it. -/
theorem index_of_passes (built : state.index.Built) (keyed : first.Keyed)
    (keeping : Keeping HoldingKeyed { store := first } state events finish final)
    (passes : ∀ key, first.namespaces.contains key ∨ state.index.clusterOf.contains key →
      ∃ course ∈ finish.courses, ∃ found, course.Looked key found)
    (newcomers : ∀ key, finish.store.namespaces.contains key →
      first.namespaces.contains key = false →
        ∃ course ∈ finish.courses, ∃ held, course.Looked key (some held)) :
    ∃ namespaces, (finish.store.answer .listNamespaces).1 = .ok namespaces ∧
      final.index = .rebuild namespaces ∧
      ∀ cluster key, key ∈ final.index.propagate cluster ↔
        ∃ held, finish.store.namespaces.get? key = some held ∧ held.clusterKey = cluster.key := by
  have upkept := keeping.upkept keyed built.consistent
  have agrees (key : ObjectKey) : final.index.Agrees finish.store key := by
    cases atFirst : first.namespaces.get? key with
    | some held =>
        rcases passes key (.inl (by simp [SortedMap.contains, atFirst])) with
          ⟨course, among, found, looked⟩
        exact upkept.agrees_of_looked among looked fun _ _ => ⟨held, atFirst⟩
    | none =>
        cases stored : finish.store.namespaces.get? key with
        | some held =>
            rcases newcomers key (by simp [SortedMap.contains, stored])
              (by simp [SortedMap.contains, atFirst]) with ⟨course, among, held, looked⟩
            refine upkept.agrees_of_looked among looked ?_
            rintro ⟨⟩
        | none =>
            cases unknown : state.index.clusterOf.get? key with
            | some cluster =>
                rcases passes key (.inr (by simp [SortedMap.contains, unknown])) with
                  ⟨course, among, found, looked⟩
                refine upkept.agrees_of_looked among looked ?_
                rintro _ ⟨held, isStored⟩
                cases stored.symm.trans isStored
            | none =>
                rw [DependencyIndex.Agrees, upkept.unlisted key unknown stored, stored]
                rfl
  refine ⟨_, rfl, ?_, fun cluster key => ?_⟩
  · refine upkept.consistent.ext (DependencyIndex.consistent_rebuild _) ?_
    apply SortedMap.ext_get?
    intro key
    rw [agrees key]
    exact (DependencyIndex.get?_clusterOf_rebuild upkept.keyed key).symm
  · refine upkept.consistent.mem_dependentsOf.trans ?_
    rw [agrees key, Option.map_eq_some_iff]

/-- The cluster wakes the namespace that is not there, until there were passes over both. -/
theorem index_of_payments :
    let store := (ofObjects .unreported .payments).store
    let initial : OperatorState := { index := .outdated }
    initial.index.propagate .prod = [Namespace.refunds.key] ∧
      ∃ events finish final, Keeping HoldingKeyed { store } initial events finish final ∧
        final.index.propagate .prod = [Namespace.payments.key] := by
  intro store initial
  let done := missed.advances .obliging 0 4
  rcases exists_run_missed with ⟨events, run⟩
  rcases run.exists_keeping initial with ⟨final, keeping⟩
  refine ⟨rfl, events, done, final, keeping, ?_⟩
  obtain ⟨found, payments⟩ : ∃ found, ∃ course ∈ done.courses,
      course.Looked Namespace.payments.key (some found) :=
    ⟨_, _, List.mem_of_getElem? (i := 0) rfl, rfl, ⟨_, rfl⟩, rfl⟩
  have refunds : ∃ course ∈ done.courses, course.Looked Namespace.refunds.key none :=
    ⟨_, List.mem_of_getElem? (i := 1) rfl, rfl, ⟨_, rfl⟩, rfl⟩
  have onlyPayments (key : ObjectKey) (known : store.namespaces.contains key) :
      key = Namespace.payments.key := by
    rcases Option.isSome_iff_exists.mp known with ⟨held, isHeld⟩
    exact (eq_payments_of_stored isHeld).1
  have passes (key : ObjectKey) (known : store.namespaces.contains key ∨
      initial.index.clusterOf.contains key) :
      ∃ course ∈ done.courses, ∃ found, course.Looked key found := by
    have either : key = Namespace.payments.key ∨ key = Namespace.refunds.key :=
      known.elim (fun isStored => .inl (onlyPayments key isStored)) DependencyIndex.eq_of_outdated
    rcases either with rfl | rfl
    · rcases payments with ⟨course, among, looked⟩
      exact ⟨course, among, some found, looked⟩
    · rcases refunds with ⟨course, among, looked⟩
      exact ⟨course, among, none, looked⟩
  have newcomers (key : ObjectKey) (known : done.store.namespaces.contains key)
      (unknown : store.namespaces.contains key = false) :
      ∃ course ∈ done.courses, ∃ held, course.Looked key (some held) := by
    have still : done.store = store := rfl
    rw [still, unknown] at known
    cases known
  rcases index_of_passes DependencyIndex.built_outdated keyed_payments keeping passes newcomers
    with ⟨namespaces, listed, isIndex, _⟩
  cases listed
  rw [isIndex]
  rfl

/-! ### A namespace that stands under another key -/

/-- What the operator keeps after a number of steps of a pass. -/
def keptAfter (servers : Servers) (pass : Nat) (situation : Situation) (state : OperatorState) :
    Nat → OperatorState
  | 0 => state
  | steps + 1 =>
      let middle := situation.advances servers pass steps
      let kept := keptAfter servers pass situation state steps
      match middle.courses[pass]?.bind fun course => course.go servers middle.store with
      | none => kept
      | some (turn, _) => kept.after middle (.turn pass turn)

/-- As long as a pass writes nothing to the store, it goes on by the rule, whatever keys namespaces
stand under. -/
theorem Keeping.advances {start situation : Situation} {initial state : OperatorState}
    {events : List Event} (keeping : Keeping Holding start initial events situation state)
    (servers : Servers) (pass steps : Nat) (idle : ∀ step ≤ steps,
      (situation.advances servers pass step).store = situation.store) :
    ∃ later, Keeping Holding start initial later (situation.advances servers pass steps)
      (keptAfter servers pass situation state steps) := by
  induction steps with
  | zero => exact ⟨events, keeping⟩
  | succ steps ih =>
      rcases ih fun step few => idle step (Nat.le_succ_of_le few) with ⟨later, kept⟩
      have same : (situation.advances servers pass (steps + 1)).store =
          (situation.advances servers pass steps).store :=
        (idle (steps + 1) (Nat.le_refl _)).trans (idle steps (Nat.le_succ _)).symm
      dsimp only [keptAfter]
      cases went : (situation.advances servers pass steps).courses[pass]?.bind fun course =>
          course.go servers (situation.advances servers pass steps).store with
      | none =>
          have stays : situation.advances servers pass (steps + 1) =
              situation.advances servers pass steps := by
            rw [Situation.advances, advance]
            split
            · rfl
            · rename_i course there
              rw [there, Option.bind_some] at went
              rw [went]
          rw [stays]
          exact ⟨later, kept⟩
      | some next =>
          rcases next with ⟨turn, course, store⟩
          rcases Option.bind_eq_some_iff.mp went with ⟨before, there, goes⟩
          exact ⟨_, kept.step (step_advance servers there goes) (holding_of_store_eq same)⟩

/-- A store in which a namespace stands under the key of another one. -/
def misfiled : Store where
  clusters := .ofList [(Cluster.unreported.key, .unreported)]
  namespaces := .ofList [(Namespace.refunds.key, .payments)]

theorem eq_refunds_of_misfiled (stored : misfiled.namespaces.contains key) :
    key = Namespace.refunds.key := by
  have table : misfiled.namespaces = SortedMap.empty.insert Namespace.refunds.key .payments := rfl
  rw [table, SortedMap.contains, SortedMap.get?_insert] at stored
  split at stored
  · exact Eq.symm ‹_›
  · cases stored

/-- A pass over the key that the namespace stands under has begun. -/
def found : Situation where
  store := misfiled
  courses :=
    [{ subject := .ns Namespace.refunds.key
       rest := (Subject.ns Namespace.refunds.key).program {} default }]

/-- That pass has ended, and one over the key of the namespace has begun. -/
def foundAndMissed : Situation where
  store := misfiled
  courses :=
    [{ subject := .ns Namespace.refunds.key
       history :=
        [.answered (.store (.getCluster Cluster.unreported.key)) (.ok (some .unreported)),
          .answered (.store (.getNamespace Namespace.refunds.key)) (.ok (some .payments))]
       rest := .done (.ok (.requeue ({} : Settings).pollInterval)) },
      { subject := .ns Namespace.payments.key
        rest := (Subject.ns Namespace.payments.key).program {} default }]

/-- A pass over the key that a namespace stands under lists it under its own key, and a pass over
that key, under which nothing is stored, takes it off the index; a scan lists it. -/
theorem index_of_misfiled :
    let initial : OperatorState := { index := ({} : DependencyIndex).upsert .payments }
    initial.index.Built ∧
      ∃ events finish final,
        Keeping Holding { store := misfiled } initial events finish final ∧
        (∀ key, misfiled.namespaces.contains key ∨ initial.index.clusterOf.contains key →
          ∃ course ∈ finish.courses, ∃ found, course.Looked key found) ∧
        finish.store = misfiled ∧
        ∃ namespaces, (finish.store.answer .listNamespaces).1 = .ok namespaces ∧
          (DependencyIndex.rebuild namespaces).propagate .prod = [Namespace.payments.key] ∧
          final.index.propagate .prod = [] := by
  intro initial
  have first : Keeping Holding { store := misfiled } initial [.began 0] found initial :=
    .step .refl (.begin _ (.ns Namespace.refunds.key) {} default) (holding_of_store_eq rfl)
  have listed := first.advances .obliging 0 4 fun step few => by
    rcases step with _ | _ | _ | _ | _ | _
    · rfl
    · rfl
    · rfl
    · rfl
    · rfl
    · omega
  rcases listed with ⟨_, listed⟩
  have second : Keeping Holding { store := misfiled } initial _ foundAndMissed _ :=
    listed.step (.begin _ (.ns Namespace.payments.key) {} default) (holding_of_store_eq rfl)
  have unlisted := second.advances .obliging 1 3 fun step few => by
    rcases step with _ | _ | _ | _ | _
    · rfl
    · rfl
    · rfl
    · rfl
    · omega
  rcases unlisted with ⟨_, unlisted⟩
  refine ⟨.upserted .start _, _, _, _, unlisted, ?_, rfl, _, rfl, rfl, rfl⟩
  rintro key (stored | known)
  · rw [eq_refunds_of_misfiled stored]
    exact ⟨_, List.mem_of_getElem? (i := 0) rfl, _, rfl, ⟨_, rfl⟩, rfl⟩
  · rw [DependencyIndex.eq_of_upserted known]
    exact ⟨_, List.mem_of_getElem? (i := 1) rfl, _, rfl, ⟨_, rfl⟩, rfl⟩

end Situation

end ClusterOperator
