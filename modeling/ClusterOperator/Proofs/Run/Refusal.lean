import ClusterOperator.Proofs.Builder.Refusal
import ClusterOperator.Proofs.Run.Gating

/-!
# What stops a pass at a child

A pass stops at a child that cannot be brought into shape. The store keeps children under keys of
their own kind and gives an identity to every cluster, and a pass only goes on to the children of a
cluster whose spec is complete. So where the cluster has a name, what stops a pass there is that
somebody else controls the child.
-/

namespace ClusterOperator

open Program

/-! ### What the store answers -/

namespace Store

variable {store later : Store} {key : ChildKey} {child : Child} {error : Error}

/-- Every child stands under a key of its kind. -/
def Kinded (store : Store) : Prop :=
  ∀ key child, store.children.get? key = some child → child.kind = key.kind

theorem Kinded.insert (kinded : store.Kinded)
    (inserted : later.children = store.children.insert key child) (own : child.kind = key.kind) :
    later.Kinded := by
  intro other held there
  rw [inserted, SortedMap.get?_insert] at there
  split at there
  · rename_i same
    cases there
    exact same ▸ own
  · exact kinded other held there

theorem kind_withMetadata (metadata : Metadata) (child : Child) :
    (child.withMetadata metadata).kind = child.kind := by
  cases child <;> rfl

theorem kinded_answer (request : StoreRequest) (kinded : store.Kinded) :
    (store.answer request).2.Kinded := by
  cases request with
  | createChild child =>
      dsimp only [answer, createChild]
      split
      · exact kinded
      · exact kinded.insert rfl (kind_withMetadata _ child)
  | replaceChild child =>
      dsimp only [answer, replaceChild]
      split
      · exact kinded
      · exact kinded.insert rfl (kind_withMetadata _ child)
  | deleteChild key =>
      dsimp only [answer, deleteChild]
      split
      · intro other held there
        have erased : (store.children.erase key).get? other = some held := there
        rw [SortedMap.get?_erase] at erased
        split at erased
        · cases erased
        · exact kinded other held erased
      · exact kinded
  | _ =>
      intro key child there
      rw [children_answer _ rfl] at there
      exact kinded key child there

theorem exists_conflict_of_writable {α : Type} {metadata : α → Metadata} {object : String}
    {stored : Option α} {version : Option String}
    (refused : writable metadata object stored version = .error error) :
    ∃ object message, error = .conflict object message := by
  unfold writable at refused
  split at refused
  · cases refused
    exact ⟨_, _, rfl⟩
  · split at refused
    · cases refused
    · split at refused
      · cases refused
      · cases refused
        exact ⟨_, _, rfl⟩

/-- The store refuses a request only where it conflicts with what is stored. -/
theorem exists_conflict_of_answer {request : StoreRequest}
    (refused : (store.answer request).1 = .error error) :
    ∃ object message, error = .conflict object message := by
  cases request with
  | replaceCluster cluster =>
      dsimp only [answer, replaceCluster] at refused
      split at refused
      · cases refused
        exact exists_conflict_of_writable ‹_›
      · cases refused
  | patchCluster key patch =>
      dsimp only [answer, patchCluster] at refused
      split at refused
      · cases refused
        exact exists_conflict_of_writable ‹_›
      · cases refused
  | patchNamespace key patch =>
      dsimp only [answer, patchNamespace] at refused
      split at refused
      · cases refused
        exact exists_conflict_of_writable ‹_›
      · cases refused
  | createChild child =>
      dsimp only [answer, createChild] at refused
      split at refused
      · cases refused
        exact ⟨_, _, rfl⟩
      · cases refused
  | replaceChild child =>
      dsimp only [answer, replaceChild] at refused
      split at refused
      · cases refused
        exact exists_conflict_of_writable ‹_›
      · cases refused
  | _ => cases refused

end Store

/-! ### What a pass has been told -/

/-- The store has not answered with the error of a builder. -/
def Course.Unforged (course : Course) : Prop :=
  ∀ request resource message,
    .answered (.store request) (.error (.builder resource message)) ∉ course.history

/-- What has been read of the children is of the kind that was asked for. -/
def Course.ReadsKinded (course : Course) : Prop :=
  ∀ key child, course.history.ReadChild key (some child) → child.kind = key.kind

namespace Situation

variable {before after start finish situation : Situation} {event : Event} {course : Course}
  {events : List Event}

/-- Nobody puts a child under a key of another kind, and where the store fails it does not fail
with the error of a builder. -/
structure Genuine (before : Situation) (event : Event) (after : Situation) : Prop where
  kinds : event = .outside → before.store.Kinded → after.store.Kinded
  faults : ∀ pass request resource message,
    event ≠ .turn pass (.faulted (.answered request (.error (.builder resource message))))

/-- What genuine steps preserve. -/
structure Authentic (situation : Situation) : Prop where
  kinded : situation.store.Kinded
  unforged : ∀ course ∈ situation.courses, course.Unforged
  readsKinded : ∀ course ∈ situation.courses, course.ReadsKinded

end Situation

namespace Course

variable {course later : Course} {turn : Turn} {store laterStore : Store}

theorem Takes.kinded (takes : course.Takes store turn later laterStore) (kinded : store.Kinded) :
    laterStore.Kinded := by
  rcases takes.store_cases with rfl | ⟨request, _, rfl⟩
  · exact kinded
  · exact Store.kinded_answer request kinded

theorem Takes.readsKinded (takes : course.Takes store turn later laterStore)
    (kinded : store.Kinded) (reads : course.ReadsKinded) : later.ReadsKinded := by
  intro key child read
  rcases takes.answered_or_now read with read | ⟨_, answers⟩
  · exact reads key child read
  · have found := Except.ok.inj (Prod.mk.inj answers).1
    exact kinded key child found

theorem Takes.unforged (takes : course.Takes store turn later laterStore)
    (unforged : course.Unforged)
    (faults : ∀ request resource message,
      turn ≠ .faulted (.answered request (.error (.builder resource message)))) :
    later.Unforged := by
  intro request resource message told
  cases takes with
  | note todo => exact unforged request resource message told
  | answer awaits answered =>
      rcases List.mem_cons.mp told with same | told
      · cases same
        have refused := congrArg Prod.fst answered.store_eq
        rcases Store.exists_conflict_of_answer refused.symm with ⟨object, reason, conflict⟩
        cases conflict
      · exact unforged request resource message told
  | fault awaits error attempted =>
      rcases List.mem_cons.mp told with same | told
      · cases same
        exact faults _ resource message rfl
      · exact unforged request resource message told
  | cut todo attempted =>
      rcases List.mem_cons.mp told with same | told
      · cases same
      · exact unforged request resource message told

end Course

namespace Situation

variable {before after start finish situation : Situation} {event : Event} {course : Course}
  {events : List Event}

theorem authentic_empty : Authentic {} where
  kinded := by
    intro key child there
    cases there
  unforged := by
    intro course there
    cases there
  readsKinded := by
    intro course there
    cases there

theorem Step.authentic (step : Step before event after) (genuine : Genuine before event after)
    (authentic : Authentic before) : Authentic after where
  kinded := by
    cases step with
    | outside change => exact genuine.kinds rfl authentic.kinded
    | begin subject settings now => exact authentic.kinded
    | turn there takes => exact takes.kinded authentic.kinded
  unforged := by
    intro course there
    rcases step.course_cases there with
      earlier | ⟨fresh, _⟩ | ⟨earlier, pass, turn, rfl, found, takes⟩
    · exact authentic.unforged course earlier
    · intro request resource message told
      rw [fresh] at told
      cases told
    · apply takes.unforged (authentic.unforged earlier (List.mem_of_getElem? found))
      intro request resource message faulted
      exact genuine.faults pass request resource message (congrArg (Event.turn pass) faulted)
  readsKinded := by
    intro course there
    rcases step.course_cases there with
      earlier | ⟨fresh, _⟩ | ⟨earlier, pass, turn, _, found, takes⟩
    · exact authentic.readsKinded course earlier
    · intro key child read
      rw [History.ReadChild, fresh] at read
      cases read
    · exact takes.readsKinded authentic.kinded
        (authentic.readsKinded earlier (List.mem_of_getElem? found))

theorem Run.authentic (run : Run Genuine start events finish) (authentic : Authentic start) :
    Authentic finish := by
  induction run with
  | refl => exact authentic
  | step run step obeyed ih => exact step.authentic obeyed ih

/-- A cluster that a pass has read has an identity. -/
theorem Reachable.isSome_uid (reachable : Reachable situation) (there : course ∈ situation.courses)
    {key : ObjectKey} {held : Cluster} (read : course.history.ReadCluster key held) :
    held.metadata.uid.isSome := by
  refine reachable.course_induction (fun _ course => ∀ key held,
    course.history.ReadCluster key held → held.metadata.uid.isSome) there ?_ ?_ ?_ key held read
  · intro store course settings now fresh start key held read
    rw [History.ReadCluster, fresh] at read
    cases read
  · intro store later course progress known
    exact known
  · intro store later course turn next reached takes known key held read
    rcases takes.answered_or_now read with read | ⟨_, answers⟩
    · exact known key held read
    · have found := Except.ok.inj (Prod.mk.inj answers).1
      exact reached.isSome_uid found

end Situation

/-! ### Where a pass stops -/

section Ways

variable {cluster : Cluster} {calls : List Exchange} {error : Error}

/-- Where the children cannot all be brought into shape, it is one of them that cannot. -/
theorem exists_visit_of_trace {builders : List Builder}
    (trace : Trace (convergeEach cluster builders).run calls (.error error)) :
    ∃ builder ∈ builders, ∃ visited, visited ⊆ calls ∧
      builder.Visit cluster visited (.error error) := by
  induction builders generalizing calls with
  | nil => cases trace.2
  | cons builder rest ih =>
      dsimp only [convergeEach] at trace
      rcases trace_run_bind.mp trace with ⟨front, back, child, rfl, first, others⟩ |
        ⟨_, first, ⟨⟩⟩
      · rcases trace_run_bind.mp others with ⟨middle, last, children, rfl, _, ends⟩ |
          ⟨_, failed, ⟨⟩⟩
        · cases ends.2
        · rcases ih failed with ⟨other, among, visited, asked, visit⟩
          refine ⟨other, List.mem_cons_of_mem builder among, visited, ?_, visit⟩
          intro exchange there
          exact List.mem_append_right front (asked there)
      · exact ⟨builder, List.mem_cons_self .., calls, List.Subset.refl calls,
          Builder.visit_of_trace first⟩

/-- Bringing the object of a builder into shape for a cluster that is known and complete comes to an
error that the store has answered with, or to one that names the owner of the object. -/
theorem Builder.Visit.refused {builder : Builder}
    (visit : builder.Visit cluster calls (.error error)) (identified : cluster.Identified)
    (complete : cluster.spec.Complete)
    (kinds : ∀ observed,
      .answered (.store (.getChild (builder.key cluster))) (.ok (some observed)) ∈ calls →
        observed.kind = builder.kind) :
    (∃ request, .answered (.store request) (.error error) ∈ calls) ∨
    builder.isEnabled cluster ∧ ∃ observed owner,
      .answered (.store (.getChild (builder.key cluster))) (.ok (some observed)) ∈ calls ∧
      cluster.rival? observed.metadata = some owner ∧ error = owner.refusal observed.metadata := by
  generalize isResult : (.error error : Except Error (Option Child)) = result at visit
  cases visit with
  | unseen problem =>
      cases isResult
      exact .inl ⟨_, List.mem_cons_self ..⟩
  | @refuse found problem enabled refused =>
      cases isResult
      cases found with
      | none =>
          rcases Builder.exists_update_skeleton identified complete builder with ⟨shaped, updated⟩
          cases updated.symm.trans refused
      | some observed =>
          have adopts := Builder.adopts_update identified complete
            (kinds observed (List.mem_cons_self ..))
          have update : builder.update cluster observed = .error error := refused
          rw [update] at adopts
          rcases adopts.exists_rival with ⟨owner, rivalled, isRefusal⟩
          exact .inr ⟨enabled, observed, owner, List.mem_cons_self .., rivalled, isRefusal⟩
  | create answer enabled updated =>
      cases answer with
      | error problem =>
          cases isResult
          exact .inl ⟨_, List.mem_cons_of_mem _ (List.mem_cons_self ..)⟩
      | ok child => cases isResult
  | keep enabled inShape => cases isResult
  | replace answer enabled updated changed =>
      cases answer with
      | error problem =>
          cases isResult
          exact .inl ⟨_, List.mem_cons_of_mem _ (List.mem_cons_self ..)⟩
      | ok child => cases isResult
  | absent disabled => cases isResult
  | delete answer disabled =>
      cases answer with
      | error problem =>
          cases isResult
          exact .inl ⟨_, List.mem_cons_of_mem _ (List.mem_cons_self ..)⟩
      | ok done => cases isResult

variable {settings : Settings} {now : Instant} {key : ObjectKey} {held changed : Cluster}
  {resource message : String}

/-- The error of a builder comes from the children of a complete cluster, or from the store. -/
theorem Cluster.Work.converging_of_builder {outcome : Except Error Outcome}
    (work : held.Work settings now key calls changed outcome)
    (isOutcome : outcome = .error (.builder resource message)) :
    (∃ request, .answered (.store request) (.error (.builder resource message)) ∈ calls) ∨
    held.spec.Complete ∧
      Trace (convergeChildren held).run calls (.error (.builder resource message)) := by
  cases work with
  | invalid complete invalid =>
      rcases ClusterSpec.exists_of_validate invalid with ⟨problem, _, rfl⟩
      cases isOutcome
  | converged complete valid tends => cases isOutcome
  | unconverged complete valid tends =>
      cases isOutcome
      rcases tends with converges | ⟨late, _⟩
      · exact .inr ⟨ClusterSpec.isNormal_iff_complete.mp (decide_eq_true complete), converges⟩
      · cases late
  | filled opened answer => cases isOutcome
  | refused opened error =>
      cases isOutcome
      exact .inl ⟨_, List.mem_cons_self ..⟩
  | late opened => cases isOutcome

theorem eq_error_of_conclusion {outcome : Except Error Outcome}
    (failed : conclusion outcome = .error error) : outcome = .error error := by
  cases outcome with
  | ok good => cases failed
  | error problem =>
      dsimp only [conclusion] at failed
      split at failed
      · cases failed
      · cases failed
        rfl

theorem error_or_error_of_settle {outcome : Except Error Outcome} {written : Except Error Unit}
    (failed : settle outcome written = .error error) :
    outcome = .error error ∨ written = .error error := by
  cases outcome with
  | error problem => exact .inl failed
  | ok good =>
      cases written with
      | error problem =>
          cases failed
          exact .inr rfl
      | ok stored => cases failed

/-- Where a pass ends with the error of a builder, it has read the cluster, and the store has
answered with the error or the children could not be brought into shape. -/
theorem exists_converging_of_trace
    (trace : Trace (reconcileCluster settings now key).run calls
      (.error (.builder resource message))) :
    (∃ request, .answered (.store request) (.error (.builder resource message)) ∈ calls) ∨
    ∃ held body, .answered (.store (.getCluster key)) (.ok (some held)) ∈ calls ∧ body ⊆ calls ∧
      held.spec.Complete ∧
      Trace (convergeChildren held).run body (.error (.builder resource message)) := by
  rcases clusterEnds_of_trace trace with ⟨error, rfl, isError⟩ | ⟨_, isOk⟩ |
    ⟨outcome, written, closes, isResult⟩
  · cases isError
    exact .inl ⟨_, List.mem_cons_self ..⟩
  · cases isOk
  · cases closes with
    | @cluster _ held changed _ _ body last alive goes closing =>
        rcases error_or_error_of_settle (eq_error_of_conclusion isResult.symm) with
          failed | unwritten
        · rcases (clusterWork_of_trace goes).converging_of_builder failed with
            ⟨request, told⟩ | ⟨complete, converges⟩
          · exact .inl ⟨request, List.mem_cons_of_mem _ (List.mem_append_left last told)⟩
          · refine .inr ⟨held, body, List.mem_cons_self .., ?_, complete, converges⟩
            intro exchange asked
            exact List.mem_cons_of_mem _ (List.mem_append_left last asked)
        · cases closing with
          | idle nothing => cases unwritten
          | wrote something answer =>
              cases unwritten
              refine .inl ⟨.patchCluster key (.between held (changed.record now outcome)), ?_⟩
              simp

end Ways

namespace Situation

variable {situation : Situation} {course : Course} {events : List Event}

/-- Where a pass of a genuine run ends with the error of a builder, somebody else controls the
object of a builder that is enabled for the cluster that the pass has read, if that has a name. -/
theorem Run.exists_rival {key : ObjectKey} {resource message : String}
    (run : Run Genuine {} events situation) (there : course ∈ situation.courses)
    (subject : course.subject = .cluster key)
    (ended : course.rest = .done (.error (.builder resource message))) :
    ∃ held, course.history.ReadCluster key held ∧ (held.metadata.name.isSome →
      ∃ builder ∈ Builder.all, builder.isEnabled held ∧ ∃ observed owner,
        course.history.ReadChild (builder.key held) (some observed) ∧
        held.rival? observed.metadata = some owner ∧
        .builder resource message = owner.refusal observed.metadata) := by
  have reachable := run.reachable .start
  have authentic := run.authentic authentic_empty
  rcases reachable.along there with ⟨settings, now, along⟩
  have trace : Trace (course.subject.program settings now) course.history.reverse
      (.error (.builder resource message)) := by
    have whole := along [] (.error (.builder resource message))
    rw [ended, List.append_nil] at whole
    exact whole ⟨rfl, rfl⟩
  have untold {request : StoreRequest} {calls : List Exchange}
      (asked : calls ⊆ course.history.reverse) :
      .answered (.store request) (.error (.builder resource message)) ∉ calls := by
    intro told
    have told := List.mem_reverse.mp (asked told)
    exact authentic.unforged course there request resource message told
  rw [subject] at trace
  rcases exists_converging_of_trace trace with ⟨request, told⟩ |
    ⟨held, body, read, asked, complete, converges⟩
  · exact absurd told (untold (List.Subset.refl _))
  · have read : course.history.ReadCluster key held := List.mem_reverse.mp read
    refine ⟨held, read, ?_⟩
    intro named
    have identified : held.Identified := ⟨named, reachable.isSome_uid there read⟩
    rcases exists_visit_of_trace converges with ⟨builder, known, visited, within, visit⟩
    have asked := List.Subset.trans within asked
    have kinds (observed : Child)
        (found : .answered (.store (.getChild (builder.key held))) (.ok (some observed)) ∈
          visited) : observed.kind = builder.kind := by
      have kind := authentic.readsKinded course there (builder.key held) observed
        (List.mem_reverse.mp (asked found))
      rwa [Builder.key_eq] at kind
    rcases visit.refused identified complete kinds with ⟨request, told⟩ |
      ⟨enabled, observed, owner, found, rivalled, isRefusal⟩
    · exact absurd told (untold asked)
    · exact ⟨builder, known, enabled, observed, owner, List.mem_reverse.mp (asked found), rivalled,
        isRefusal⟩

/-- For a cluster with a name and an identity and with a complete spec, every builder makes its
object, and brings every object of its kind into shape that nobody else controls. Where a pass of a
genuine run ends with the error of a builder, it has read a cluster, and if that has a name, the
error is that of an object that somebody else controls. -/
theorem refused_only_for_rivals :
    (∀ (cluster : Cluster) (builder : Builder), cluster.Identified →
      cluster.spec.withDefaults = cluster.spec →
      (∃ shaped, builder.update cluster (builder.skeleton cluster) = .ok shaped) ∧
      ∀ observed, observed.kind = builder.kind →
        (cluster.rival? observed.metadata = none →
          ∃ shaped, builder.update cluster observed = .ok shaped) ∧
        ∀ error, builder.update cluster observed = .error error →
          ∃ owner, cluster.rival? observed.metadata = some owner ∧
            error = owner.refusal observed.metadata) ∧
    ∀ events situation course key resource message, Run Genuine {} events situation →
      course ∈ situation.courses → course.subject = .cluster key →
      course.rest = .done (.error (.builder resource message)) →
      ∃ held, course.history.ReadCluster key held ∧ (held.metadata.name.isSome →
        ∃ builder ∈ Builder.all, builder.isEnabled held ∧ ∃ observed owner,
          course.history.ReadChild (builder.key held) (some observed) ∧
          held.rival? observed.metadata = some owner ∧
          .builder resource message = owner.refusal observed.metadata) := by
  constructor
  · intro cluster builder identified normal
    have complete := ClusterSpec.isNormal_iff_complete.mp (decide_eq_true normal)
    refine ⟨Builder.exists_update_skeleton identified complete builder, ?_⟩
    intro observed kind
    have adopts := Builder.adopts_update identified complete kind
    refine ⟨adopts.exists_ok, ?_⟩
    intro error refused
    rw [refused] at adopts
    exact adopts.exists_rival
  · intro events situation course key resource message run there subject ended
    exact run.exists_rival there subject ended

theorem run_ofRival (name : String) :
    Run Genuine {} [.outside, .outside, .began 0] (ofRival name) := by
  have inserted : Run Genuine {} [.outside]
      { store := (({} : Store).insertCluster .complete).2 } := by
    refine .step .refl (.outside (.insertCluster _ _)) ⟨?_, by simp⟩
    intro _ kinded
    exact kinded
  have created := inserted.step (.outside (.request _ (.createChild (.rival name)))) ⟨?_, by simp⟩
  · exact created.step (.begin _ (.cluster Cluster.complete.key) {} default) ⟨by simp, by simp⟩
  · intro _ kinded
    exact Store.kinded_answer (.createChild (.rival name)) kinded

/-- The pass stops at the child that the other cluster controls, and would have made all children.
-/
theorem refused_only_for_rivals_of_rival :
    (let error : Error := .builder "apps/dev-frontend" "already controlled by TemporalCluster old"
      ∃ course, ((ofRival "dev-frontend").advances .obliging 0 3).courses = [course] ∧
        course.rest = .done (.error error) ∧
        ∃ held, course.history.ReadCluster Cluster.complete.key held ∧
          ∃ builder ∈ Builder.all, builder.isEnabled held ∧ ∃ observed owner,
            course.history.ReadChild (builder.key held) (some observed) ∧
            held.rival? observed.metadata = some owner ∧
            error = owner.refusal observed.metadata) ∧
    ∀ builder : Builder, ∃ shaped,
      builder.update (({} : Store).insertCluster .complete).1
        (builder.skeleton (({} : Store).insertCluster .complete).1) = .ok shaped := by
  have normal : Cluster.complete.spec.withDefaults = Cluster.complete.spec :=
    ClusterSpec.withDefaults_withDefaults _
  constructor
  · obtain ⟨events, run⟩ : ∃ events, Run Genuine (ofRival "dev-frontend") events
        ((ofRival "dev-frontend").advances .obliging 0 3) := by
      refine exists_run_advances fun step less turn unfaulted => ⟨nofun, ?_⟩
      intro pass request resource message faulted
      exact unfaulted _ (Event.turn.inj faulted).2
    have whole := (run_ofRival "dev-frontend").trans run
    rcases refused_only_for_rivals.2 _ _ _ Cluster.complete.key _ _ whole
      (List.mem_singleton.mpr rfl) rfl rfl with ⟨held, read, rivals⟩
    refine ⟨_, rfl, rfl, held, read, ?_⟩
    have named : held.metadata.name.isSome := by
      rcases List.mem_cons.mp read with same | read
      · cases same
      · rcases List.mem_cons.mp read with same | read
        · cases same
        · cases List.mem_singleton.mp read
          rfl
    exact rivals named
  · intro builder
    exact (refused_only_for_rivals.1 (({} : Store).insertCluster .complete).1 builder ⟨rfl, rfl⟩
      normal).1

end Situation

/-- A cluster with an identity that has no name. -/
def Cluster.nameless : Cluster where
  metadata := { ns := some "apps", uid := some "1" }
  spec := ClusterSpec.withDefaults {}
  status := none

namespace Situation

/-- A cluster is there, and a service that belongs to nobody. -/
def ofService : Store :=
  ((({} : Store).insertCluster .complete).2.createChild (.service
    { metadata := { name := some "dev-frontend", ns := some "apps" } })).2

/-- Somebody has put a deployment in the place of the service, and a pass over the cluster has
begun. -/
def ofSwapped : Situation where
  store := ofService.putChild ⟨.service, "apps", "dev-frontend"⟩
    (.deployment { metadata := { name := some "dev-frontend", ns := some "apps" } })
  courses :=
    [{ subject := .cluster Cluster.complete.key
       rest := (Subject.cluster Cluster.complete.key).program {} default }]

theorem reachable_ofSwapped : Reachable ofSwapped := by
  have inserts : Step {} .outside { store := (({} : Store).insertCluster .complete).2 } :=
    .outside (.insertCluster _ _)
  have creates : Step { store := (({} : Store).insertCluster .complete).2 } .outside
      { store := ofService } :=
    .outside (.request _ (.createChild _))
  have swaps : Step { store := ofService } .outside { store := ofSwapped.store } :=
    .outside (.editChild _ rfl)
  have begins : Step { store := ofSwapped.store } (.began 0) ofSwapped :=
    .begin _ (.cluster Cluster.complete.key) {} default
  exact (((Reachable.start.step inserts).step creates).step swaps).step begins

/-- For a cluster without a name a builder cannot even make its object. Where somebody puts a child
of another kind in the place of a child, a pass stops there though nobody controls the child. -/
theorem refused_of_nameless :
    (Cluster.nameless.metadata.uid.isSome ∧
      Cluster.nameless.spec.withDefaults = Cluster.nameless.spec ∧
      Builder.frontendService.update .nameless (Builder.frontendService.skeleton .nameless) =
        .error (.builder "apps/-frontend" "owner apps/ has no uid yet")) ∧
    Reachable ofSwapped ∧
      ∃ course, (ofSwapped.advances .obliging 0 3).courses = [course] ∧
        course.rest =
          .done (.error (.builder "Deployment/apps/dev-frontend" "expected a Service")) ∧
        ∀ (key : ChildKey) (observed : Child) (cluster : Cluster),
          course.history.ReadChild key (some observed) →
            cluster.rival? observed.metadata = none := by
  have complete : Cluster.nameless.spec.withDefaults = Cluster.nameless.spec :=
    ClusterSpec.withDefaults_withDefaults _
  refine ⟨⟨rfl, complete, rfl⟩, reachable_ofSwapped, _, rfl, rfl, ?_⟩
  intro key observed cluster read
  rcases List.mem_cons.mp read with same | read
  · cases same
  · rcases List.mem_cons.mp read with same | read
    · cases same
      rfl
    · cases List.mem_singleton.mp read

end Situation

end ClusterOperator
