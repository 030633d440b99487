import ClusterOperator.Proofs.Cluster.Convergence
import ClusterOperator.Proofs.Run.Passes
import ClusterOperator.Proofs.Run.Schedule

/-!
# Children of other owners

A child can have a controller that is not the cluster under whose name it stands. Bringing it into
shape is refused then, so no pass replaces it, whoever writes in between. To delete it a pass does
not ask whose it is: the object of a disabled builder goes with every pass that succeeds.
-/

namespace ClusterOperator

/-- The object is controlled by somebody other than the cluster. -/
def Metadata.ForeignTo (metadata : Metadata) (cluster : Cluster) : Prop :=
  ∃ owner ∈ metadata.ownerReferences.getD [],
    owner.controller = some true ∧ cluster.metadata.uid ≠ some owner.uid

/-! ### Bringing into shape -/

section Shape

variable {cluster : Cluster} {labels : StringMap String} {metadata adopted : Metadata}

theorem Cluster.uid_of_controllerReference? {owner : OwnerReference}
    (identity : cluster.controllerReference? = some owner) :
    cluster.metadata.uid = some owner.uid := by
  unfold controllerReference? at identity
  rcases Option.bind_eq_some_iff.mp identity with ⟨name, _, rest⟩
  rcases Option.bind_eq_some_iff.mp rest with ⟨uid, there, ⟨⟩⟩
  exact there

theorem Cluster.not_foreignTo_of_adopt (adopts : cluster.adopt labels metadata = .ok adopted) :
    ¬ metadata.ForeignTo cluster := by
  rintro ⟨other, among, controls, differs⟩
  rcases control_eq_ok adopts with ⟨owner, identity, free, _⟩
  rw [uid_of_controllerReference? identity] at differs
  have rivals : other.uid ≠ owner.uid := fun same => differs (congrArg some same.symm)
  apply free other among
  simp [controls, rivals]

/-- What somebody else controls is not brought into shape. -/
theorem Builder.not_foreignTo_of_update {builder : Builder} {observed shaped : Child}
    (updated : builder.update cluster observed = .ok shaped) :
    ¬ observed.metadata.ForeignTo cluster := by
  rcases update_cases updated with
    ⟨exposure, held, result, _, rfl, _, applied⟩ | ⟨workload, held, result, _, rfl, _, applied⟩
  · rcases Exposure.apply_eq_ok applied with ⟨metadata, adopts, _⟩
    exact Cluster.not_foreignTo_of_adopt adopts
  · rcases Workload.apply_eq_ok applied with ⟨metadata, adopts, _⟩
    exact Cluster.not_foreignTo_of_adopt adopts

end Shape

/-! ### What the version of a child tells -/

namespace Store

variable {store later : Store} {held : Child} {key : ChildKey}

/-- Whatever is stored in the version of a child has the metadata of that child. -/
structure Identifies (store : Store) (held : Child) : Prop where
  handedOut : ∃ version ≤ store.version, held.metadata.resourceVersion = some (toString version)
  alone : ∀ key child, store.children.get? key = some child →
    child.metadata.resourceVersion = held.metadata.resourceVersion →
      child.metadata = held.metadata

theorem Versioned.identifies (versioned : store.Versioned)
    (there : store.children.get? key = some held) : store.Identifies held := by
  refine ⟨versioned.children key held there, fun other child stored same => ?_⟩
  cases versioned.childrenApart other key child held stored there same
  cases stored.symm.trans there
  rfl

/-- Children may change what is observed about them, but not their metadata, in one version. -/
theorem Identifies.progress (identifies : store.Identifies held) (progress : Progress store later) :
    later.Identifies held := by
  rcases identifies with ⟨⟨version, handedOut, carried⟩, alone⟩
  refine ⟨⟨version, Nat.le_trans handedOut progress.version_le, carried⟩, ?_⟩
  intro key child stored same
  rcases progress.children with rewritten | ⟨restate, keeps, restated⟩
  · have before := rewritten.renewed.get?_of_older handedOut (same.trans carried) stored
    exact alone key child before same
  · rw [restated, SortedMap.get?_mapValues, Option.map_eq_some_iff] at stored
    rcases stored with ⟨earlier, before, rfl⟩
    rw [keeps] at same ⊢
    exact alone key earlier before same

end Store

/-- What a pass has read of the children tells them apart still. -/
def Course.ReadsIdentified (store : Store) (course : Course) : Prop :=
  ∀ key held, course.history.ReadChild key (some held) → store.Identifies held

theorem Situation.Reachable.readsIdentified {situation : Situation} {course : Course}
    (reachable : Reachable situation) (there : course ∈ situation.courses) :
    course.ReadsIdentified situation.store := by
  refine reachable.course_induction (fun store course => course.ReadsIdentified store) there
    ?_ ?_ ?_
  · intro store course settings now fresh start key held read
    rw [History.ReadChild, fresh] at read
    cases read
  · intro store later course progress identified key held read
    exact (identified key held read).progress progress
  · intro store later course turn next reached takes identified key held read
    rcases takes.answered_or_now read with read | ⟨_, answers⟩
    · exact (identified key held read).progress takes.progress
    · rcases Prod.mk.inj answers with ⟨found, rfl⟩
      exact reached.versioned.identifies (Except.ok.inj found)

/-! ### What a request of a pass does to a child of somebody else -/

/-- Whether a request is to write a child. -/
def StoreRequest.writesChild : StoreRequest → Bool
  | createChild _ => true
  | replaceChild _ => true
  | deleteChild _ => true
  | _ => false

/-- A pass over a cluster writes children only as it tends them, for the cluster that it read. -/
theorem Cluster.Asks.tends_of_writesChild {key : ObjectKey} {history : History}
    {request : StoreRequest} (asks : Asks key history (.store request))
    (writes : request.writesChild) :
    ∃ held, history.ReadCluster key held ∧ held.Tends history (.store request) := by
  cases asks with
  | object => cases writes
  | fill read opened => cases writes
  | tend read normal tends => exact ⟨_, read, tends⟩
  | write now result read same => cases writes

/-- A pass over a namespace writes no children. -/
theorem Namespace.Asks.writesChild_eq_false {key : ObjectKey} {history : History}
    {request : StoreRequest} (asks : Asks key history (.store request)) :
    request.writesChild = false := by
  cases asks with
  | prepare prepares => cases prepares <;> rfl
  | write now read unwritten leaves => rfl

namespace Store

variable {store : Store} {key : ChildKey} {child : Child}

theorem children_answer {request : StoreRequest} (store : Store)
    (about : request.writesChild = false) :
    (store.answer request).2.children = store.children := by
  cases request with
  | replaceCluster cluster =>
      dsimp only [answer, replaceCluster]
      split <;> rfl
  | patchCluster key patch =>
      dsimp only [answer, patchCluster]
      split <;> rfl
  | patchNamespace key patch =>
      dsimp only [answer, patchNamespace]
      split <;> rfl
  | createChild child => cases about
  | replaceChild child => cases about
  | deleteChild key => cases about
  | _ => rfl

theorem get?_createChild (there : store.children.get? key = some child) (created : Child) :
    (store.createChild created).2.children.get? key = some child := by
  unfold createChild
  split
  · exact there
  · rename_i free
    have ne : created.key ≠ key := by
      rintro rfl
      exact free (by rw [SortedMap.contains, there]; rfl)
    exact (SortedMap.get?_insert _ _ _ _).trans ((if_neg ne).trans there)

/-- A child is replaced only where the version of it is named. -/
theorem get?_replaceChild_cases (there : store.children.get? key = some child)
    (replaced : Child) :
    (store.replaceChild replaced).2.children.get? key = some child ∨
      replaced.key = key ∧ (replaced.metadata.resourceVersion = none ∨
        child.metadata.resourceVersion = replaced.metadata.resourceVersion) := by
  by_cases own : replaced.key = key
  · dsimp only [replaceChild]
    split
    · exact .inl there
    · rename_i held accepted
      rcases writable_eq_ok accepted with ⟨found, bound⟩
      change store.children.get? replaced.key = some held at found
      rw [own] at found
      cases found.symm.trans there
      exact .inr ⟨own, bound⟩
  · dsimp only [replaceChild]
    split
    · exact .inl there
    · exact .inl ((SortedMap.get?_insert _ _ _ _).trans ((if_neg own).trans there))

theorem get?_deleteChild (there : store.children.get? key = some child) {deleted : ChildKey}
    (ne : deleted ≠ key) : (store.deleteChild deleted).children.get? key = some child := by
  dsimp only [deleteChild]
  split
  · exact (SortedMap.get?_erase _ _ _).trans ((if_neg ne).trans there)
  · exact there

theorem get?_deleteChild_self (there : store.children.get? key = some child) :
    (store.deleteChild key).children.get? key = none := by
  rw [deleteChild_of_present there]
  exact (SortedMap.get?_erase _ _ _).trans (if_pos rfl)

/-- Of the requests for the children of a cluster, only to delete the object of a disabled builder
changes what somebody else controls. -/
theorem kept_of_tends {cluster : Cluster} {history : History} {request : StoreRequest}
    (tends : cluster.Tends history (.store request))
    (identified : ∀ key held, history.ReadChild key (some held) → store.Identifies held)
    (there : store.children.get? key = some child) (foreign : child.metadata.ForeignTo cluster) :
    (store.answer request).2.children.get? key = some child ∨
      (store.answer request).2.children.get? key = none ∧
        ∃ builder ∈ Builder.all, builder.isEnabled cluster = false ∧ builder.key cluster = key := by
  cases tends with
  | look known => exact .inl there
  | create enabled absent updated => exact .inl (get?_createChild there _)
  | @replace builder observed replaced enabled read updated changed =>
      rcases get?_replaceChild_cases there replaced with kept | ⟨_, bound⟩
      · exact .inl kept
      -- What is stored in the version that the pass read is not foreign, as little as that was.
      rcases identified _ observed read with ⟨⟨version, _, carried⟩, alone⟩
      rw [Builder.resourceVersion_update updated, carried] at bound
      rcases bound with unbound | bound
      · cases unbound
      have same := alone key child there (bound.trans carried.symm)
      rw [same] at foreign
      exact absurd foreign (Builder.not_foreignTo_of_update updated)
  | @delete builder observed known disabled read =>
      by_cases own : builder.key cluster = key
      · refine .inr ⟨?_, builder, known, disabled, own⟩
        rw [own]
        exact get?_deleteChild_self there
      · exact .inl (get?_deleteChild there own)

end Store

namespace Situation

variable {before after start finish : Situation} {event : Event} {course later : Course}
  {turn : Turn} {laterStore : Store} {key : ChildKey} {child : Child}

/-- A pass leaves what somebody else controls as it is, or deletes it where a builder is disabled
that describes an object of this name. -/
theorem Reachable.foreign_cases (reachable : Reachable before) (there : course ∈ before.courses)
    (takes : course.Takes before.store turn later laterStore)
    (stored : before.store.children.get? key = some child)
    (foreign : ∀ owner held, course.subject = .cluster owner →
      course.history.ReadCluster owner held → child.metadata.ForeignTo held) :
    laterStore.children.get? key = some child ∨
      laterStore.children.get? key = none ∧ ∃ owner held builder,
        course.subject = .cluster owner ∧ course.history.ReadCluster owner held ∧
          builder ∈ Builder.all ∧ builder.isEnabled held = false ∧ builder.key held = key := by
  rcases takes.effect (reachable.course_keeps there) with
    rfl | ⟨request, exchange, rest, same, asks, rfl, rfl⟩
  · exact .inl stored
  cases writes : request.writesChild with
  | false =>
      rw [Store.children_answer _ writes]
      exact .inl stored
  | true =>
      obtain ⟨kind, subject⟩ : ∃ kind, course.subject = kind := ⟨_, rfl⟩
      rw [subject] at asks
      cases kind with
      | cluster owner =>
          rcases asks.tends_of_writesChild writes with ⟨held, read, tends⟩
          have identified := reachable.readsIdentified there
          rcases Store.kept_of_tends tends identified stored (foreign owner held subject read) with
            kept | ⟨gone, builder, known, disabled, own⟩
          · exact .inl kept
          · exact .inr ⟨gone, owner, held, builder, subject, read, known, disabled, own⟩
      | ns owner =>
          rw [asks.writesChild_eq_false] at writes
          cases writes

/-- In a step of a run, others leave the child under a key alone, and the cluster of the pass that
takes the step is not the one that controls the child. Where a builder is disabled for it that
describes an object of this name, the step does not leave the name without an object. -/
structure Spares (key : ChildKey) (child : Child) (before : Situation) (event : Event)
    (after : Situation) : Prop where
  outside : event = .outside → after.store.children.get? key = before.store.children.get? key
  passes : ∀ pass turn course owner held, event = .turn pass turn →
    before.courses[pass]? = some course → course.subject = .cluster owner →
      course.history.ReadCluster owner held →
        child.metadata.ForeignTo held ∧
          ((∀ builder ∈ Builder.all, builder.key held = key → builder.isEnabled held) ∨
            (after.store.children.get? key).isSome)

theorem Step.kept_of_spares (step : Step before event after) (reachable : Reachable before)
    (spares : Spares key child before event after)
    (stored : before.store.children.get? key = some child) :
    after.store.children.get? key = some child := by
  cases step with
  | outside change => exact (spares.outside rfl).trans stored
  | begin subject settings now => exact stored
  | @turn pass course later turn store found takes =>
      have foreign (owner : ObjectKey) (held : Cluster) (subject : course.subject = .cluster owner)
          (read : course.history.ReadCluster owner held) : child.metadata.ForeignTo held :=
        (spares.passes pass turn course owner held rfl found subject read).1
      have there := List.mem_of_getElem? found
      rcases reachable.foreign_cases there takes stored foreign with
        kept | ⟨gone, owner, held, builder, subject, read, known, disabled, own⟩
      · exact kept
      rcases spares.passes pass turn course owner held rfl found subject read with
        ⟨_, enabled | present⟩
      · cases disabled.symm.trans (enabled builder known own)
      · rw [gone] at present
        cases present

theorem Run.kept_of_spares {events : List Event}
    (run : Run (Spares key child) start events finish) (reachable : Reachable start)
    (stored : start.store.children.get? key = some child) :
    finish.store.children.get? key = some child := by
  induction run with
  | refl => exact stored
  | step run step obeyed ih => exact step.kept_of_spares (run.reachable reachable) obeyed ih

/-- Whatever else happens meanwhile, passes over a cluster never replace a child that somebody else
controls, and delete it only where a builder is disabled that describes an object of its name. With
a disabled builder they do: after a pass over the children that ends well there is no object of its
name, whoever controlled it. -/
theorem foreign_kept_unless_disabled {events : List Event} (reachable : Reachable start)
    (run : Run (Spares key child) start events finish)
    (stored : start.store.children.get? key = some child) :
    finish.store.children.get? key = some child ∧
    ∀ replies cluster children later,
      Program.perform replies (Program.convergeChildren cluster) finish.store =
        (.ok children, later) →
      ∀ builder ∈ Builder.all, builder.isEnabled cluster = false →
        later.children.get? (builder.key cluster) = none := by
  refine ⟨run.kept_of_spares reachable stored, ?_⟩
  intro replies cluster children later performed builder known disabled
  have versioned := (run.reachable reachable).versioned
  have converges : finish.store.convergeAll cluster Builder.all = (.ok children, later) := by
    rw [← Program.perform_convergeEach replies]
    exact performed
  have converged := Store.converged_convergeAll versioned (Builder.pairwise_key_ne cluster)
    converges
  have inShape := converged.inShape children rfl builder known
  cases held : later.children.get? (builder.key cluster) with
  | none => rfl
  | some child =>
      rw [held] at inShape
      cases disabled.symm.trans inShape.1

end Situation

instance (metadata : Metadata) (cluster : Cluster) : Decidable (metadata.ForeignTo cluster) :=
  inferInstanceAs (Decidable (∃ owner ∈ metadata.ownerReferences.getD [], _))

/-- An object of the other cluster that had the name before. -/
def Child.rival (name : String) : Child :=
  .service
    { metadata :=
        { name := some name
          ns := some "apps"
          ownerReferences :=
            some
              [{ kind := "TemporalCluster", name := "old", uid := "1",
                 controller := some true }] } }

namespace Situation

/-- A cluster is there, and a child of another one, and a pass over the cluster has begun. -/
def ofRival (name : String) : Situation where
  store := ((({} : Store).insertCluster .complete).2.createChild (.rival name)).2
  courses :=
    [{ subject := .cluster Cluster.complete.key
       rest := (Subject.cluster Cluster.complete.key).program {} default }]

theorem reachable_ofRival (name : String) : Reachable (ofRival name) := by
  have inserts : Step {} .outside { store := (({} : Store).insertCluster .complete).2 } :=
    .outside (.insertCluster _ _)
  have creates : Step { store := (({} : Store).insertCluster .complete).2 } .outside
      { store := (ofRival name).store } := .outside (.request _ (.createChild (.rival name)))
  have begins : Step { store := (ofRival name).store } (.began 0) (ofRival name) :=
    .begin _ (.cluster Cluster.complete.key) {} default
  exact ((Reachable.start.step inserts).step creates).step begins

/-- The child of the other cluster as it is stored. -/
def rival (name : String) : Child :=
  (Child.rival name).stamped (some ("uid-apps-" ++ name)) (some "2") (some 1)

/-- Whether a cluster that a pass read is another one than the controller of a child, with no
builder disabled that describes an object of the child's name. -/
def sparing (child : Child) : Exchange → Bool
  | .answered (.store (.getCluster _)) (.ok (some held)) =>
      decide (child.metadata.ForeignTo held ∧
        ∀ builder ∈ Builder.all, builder.key held = child.key → builder.isEnabled held)
  | _ => true

theorem exists_run_spares {child : Child} {name : String} {steps : Nat}
    (spared : ∀ step < steps, ∀ course ∈ ((ofRival name).advances .obliging 0 step).courses,
      course.history.all (sparing child)) :
    ∃ events, Run (Spares child.key child) (ofRival name) events
      ((ofRival name).advances .obliging 0 steps) := by
  refine exists_run_advances fun step less turn unfaulted => ⟨nofun, ?_⟩
  intro pass taker course owner held same found subject read
  have all := spared step less course (List.mem_of_getElem? found)
  have sparing := List.all_eq_true.mp all _ read
  rcases of_decide_eq_true sparing with ⟨foreign, enabled⟩
  exact ⟨foreign, .inl enabled⟩

theorem foreign_kept_of_rival :
    (let taken := (ofRival "dev-frontend").advances .obliging 0 3
     taken.store.children.get? (rival "dev-frontend").key = some (rival "dev-frontend") ∧
       ∃ course error, taken.courses = [course] ∧ course.rest = .done (.error error)) ∧
    let cluster := (({} : Store).insertCluster .complete).1
    (rival "dev-ui").metadata.ForeignTo cluster ∧
      (ofRival "dev-ui").store.children.get? (rival "dev-ui").key = some (rival "dev-ui") ∧
      ∃ children later,
        Program.perform (fun _ => .error (.conflict "" "")) (Program.convergeChildren cluster)
          (ofRival "dev-ui").store = (.ok children, later) ∧
        later.children.get? (rival "dev-ui").key = none := by
  refine ⟨⟨?_, _, _, rfl, rfl⟩, ?_⟩
  · have spared : ∀ step < 3, ∀ course ∈
        ((ofRival "dev-frontend").advances .obliging 0 step).courses,
        course.history.all (sparing (rival "dev-frontend")) := by decide
    rcases exists_run_spares spared with ⟨events, run⟩
    exact (foreign_kept_unless_disabled (reachable_ofRival "dev-frontend") run rfl).1
  · have stored : (ofRival "dev-ui").store.children.get? (rival "dev-ui").key =
      some (rival "dev-ui") := rfl
    obtain ⟨children, later, performed⟩ : ∃ children later,
        Program.perform (fun _ => .error (.conflict "" ""))
          (Program.convergeChildren (({} : Store).insertCluster .complete).1)
          (ofRival "dev-ui").store = (.ok children, later) := ⟨_, _, Prod.ext rfl rfl⟩
    have gone := (foreign_kept_unless_disabled (reachable_ofRival "dev-ui") .refl stored).2 _ _ _ _
      performed .uiService (by decide) rfl
    exact ⟨by decide, stored, children, later, performed, gone⟩

end Situation

end ClusterOperator
