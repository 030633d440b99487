import ClusterOperator.Proofs.Cluster.Ending
import ClusterOperator.Proofs.Cluster.Rollout

/-!
# Interrupted convergence

A run over the children of a cluster may stop at any request, whether or not the request has had its
effect. What a run leaves behind is midway: each object is as it was in the beginning, or as its
builder makes it. So a later run finishes what the earlier ones have begun, and what it comes to is
what a single run would have come to that nothing had stopped.
-/

namespace ClusterOperator

/-- The child but for its version. -/
def Child.unversioned (child : Child) : Child :=
  child.withMetadata { child.metadata with resourceVersion := none }

theorem Child.unversioned_stamped (uid one other : Option String) (generation : Option Int)
    (child : Child) :
    (child.stamped uid one generation).unversioned =
      (child.stamped uid other generation).unversioned := by
  cases child <;> rfl

namespace Builder

variable {builder : Builder} {cluster : Cluster} {before after other : Option Child}

theorem Completes.eq_of_inShape (completes : builder.Completes cluster before after)
    (inShape : builder.InShape cluster before) : after = before := by
  cases completes with
  | keeps => rfl
  | creates version enabled updated =>
      have disabled : builder.isEnabled cluster = false := inShape
      rw [disabled] at enabled
      cases enabled
  | replaces version enabled own changed updated =>
      cases inShape.2.symm.trans updated
      exact absurd rfl changed
  | deletes observed disabled =>
      have enabled := inShape.1
      rw [disabled] at enabled
      cases enabled

/-- But for the version, a builder can make only one thing of an object. -/
theorem Completes.unique (first : builder.Completes cluster before after)
    (second : builder.Completes cluster before other) :
    after.map Child.unversioned = other.map Child.unversioned := by
  by_cases inShape : builder.InShape cluster before
  · rw [first.eq_of_inShape inShape, second.eq_of_inShape inShape]
  · cases first with
    | keeps already => exact absurd already inShape
    | creates version enabled updated =>
        cases second with
        | keeps already => exact absurd already inShape
        | creates again _ described =>
            cases updated.symm.trans described
            exact congrArg some (Child.unversioned_stamped _ version again _ _)
    | replaces version enabled own changed updated =>
        cases second with
        | keeps already => exact absurd already inShape
        | replaces again _ _ _ described =>
            cases updated.symm.trans described
            exact congrArg some (Child.unversioned_stamped _ version again _ _)
        | deletes observed disabled =>
            rw [disabled] at enabled
            cases enabled
    | deletes observed disabled =>
        cases second with
        | keeps already => exact absurd already inShape
        | replaces again enabled =>
            rw [disabled] at enabled
            cases enabled
        | deletes => rfl

end Builder

namespace Store

variable {start now later : Store} {cluster : Cluster} {builder : Builder}

/-- Every child is as it was in the beginning, or its builder is done with it. -/
structure Midway (cluster : Cluster) (start now : Store) : Prop where
  versioned : now.Versioned
  each : ∀ key, now.children.get? key = start.children.get? key ∨
    ∃ builder : Builder, builder.key cluster = key ∧
      builder.Completes cluster (start.children.get? key) (now.children.get? key)

theorem midway_refl (cluster : Cluster) (versioned : start.Versioned) :
    Midway cluster start start :=
  ⟨versioned, fun _ => .inl rfl⟩

theorem Midway.of_children (midway : Midway cluster start now) (versioned : later.Versioned)
    (same : later.children = now.children) : Midway cluster start later := by
  refine ⟨versioned, fun key => ?_⟩
  rw [same]
  exact midway.each key

/-- What is in shape in the end is what its builder has made of it. -/
theorem Midway.completes (midway : Midway cluster start now)
    (inShape : builder.InShape cluster (now.children.get? (builder.key cluster))) :
    builder.Completes cluster (start.children.get? (builder.key cluster))
      (now.children.get? (builder.key cluster)) := by
  rcases midway.each (builder.key cluster) with same | ⟨other, own, completes⟩
  · rw [same] at inShape ⊢
    exact .keeps inShape
  · cases Builder.key_injective own
    exact completes

theorem Midway.others (midway : Midway cluster start now) {key : ChildKey}
    (outside : ∀ builder : Builder, builder.key cluster ≠ key) :
    now.children.get? key = start.children.get? key := by
  rcases midway.each key with same | ⟨builder, own, _⟩
  · exact same
  · exact absurd own (outside builder)

/-- The next builder finds its object as it was in the beginning, or is done with it. -/
theorem Midway.converge (midway : Midway cluster start now) (builder : Builder) :
    Midway cluster start (now.converge cluster builder).2 := by
  have follows := (progress_converge cluster builder now).versioned midway.versioned
  cases converged : now.converge cluster builder with
  | mk result later =>
      rw [converged] at follows
      cases result with
      | error error =>
          apply midway.of_children follows
          exact (converge_error midway.versioned converged).1.children
      | ok child =>
          have shaped := converge_ok midway.versioned converged
          refine ⟨follows, fun key => ?_⟩
          by_cases own : builder.key cluster = key
          · subst own
            rcases midway.each (builder.key cluster) with same | ⟨other, own, completes⟩
            · right
              refine ⟨builder, rfl, ?_⟩
              rw [shaped.stored, ← same]
              exact shaped.completes
            · cases Builder.key_injective own
              rw [converge_of_inShape completes.inShape] at converged
              cases converged
              exact midway.each _
          · dsimp only
            rw [shaped.others key own]
            exact midway.each key

/-- But for the versions, there is only one end. -/
theorem Midway.unique {key : ChildKey} (first : Midway cluster start now)
    (second : Midway cluster start later)
    (inShape : ∀ builder : Builder,
      builder.InShape cluster (now.children.get? (builder.key cluster)))
    (alsoInShape : ∀ builder : Builder,
      builder.InShape cluster (later.children.get? (builder.key cluster))) :
    (now.children.get? key).map Child.unversioned =
      (later.children.get? key).map Child.unversioned := by
  by_cases described : ∃ builder : Builder, builder.key cluster = key
  · rcases described with ⟨builder, rfl⟩
    exact (first.completes (inShape builder)).unique (second.completes (alsoInShape builder))
  · have outside (builder : Builder) : builder.key cluster ≠ key :=
      fun own => described ⟨builder, own⟩
    rw [first.others outside, second.others outside]

/-- Where each builder can make something of its object, all of them can. -/
theorem convergeAll_of_completes {builders : List Builder} (versioned : start.Versioned)
    (distinct : builders.Pairwise fun left right => left.key cluster ≠ right.key cluster)
    (each : ∀ builder ∈ builders, ∃ after,
      builder.Completes cluster (start.children.get? (builder.key cluster)) after) :
    ∃ children last, start.convergeAll cluster builders = (.ok children, last) := by
  induction builders generalizing start with
  | nil => exact ⟨[], start, rfl⟩
  | cons builder rest ih =>
      rcases List.pairwise_cons.mp distinct with ⟨apart, distinct⟩
      rcases each builder (List.mem_cons_self ..) with ⟨after, completes⟩
      rcases converge_of_completes completes with ⟨child, middle, converged⟩
      have shaped := converge_ok versioned converged
      have follows : middle.Versioned := by
        have progress := progress_converge cluster builder start
        rw [converged] at progress
        exact progress.versioned versioned
      have remaining (one : Builder) (there : one ∈ rest) : ∃ after,
          one.Completes cluster (middle.children.get? (one.key cluster)) after := by
        rw [shaped.others _ (apart one there)]
        exact each one (List.mem_cons_of_mem _ there)
      rcases ih follows distinct remaining with ⟨children, last, converges⟩
      refine ⟨child.toList ++ children, last, ?_⟩
      simp only [convergeAll, converged, converges]

end Store

namespace Program

variable {σ : Type} {environment : Environment σ} {view : σ → Store} {cluster : Cluster}
  {state last : σ}

/-- A run over one child converges it, or changes nothing. -/
theorem view_run_convergeChild (solitary : environment.Solitary view) (cluster : Cluster)
    (builder : Builder) (state : σ) :
    let later := view ((convergeChild cluster builder).run.run environment state).2
    later = view state ∨ later = ((view state).converge cluster builder).2 := by
  dsimp only [convergeChild]
  rw [run_run_bind]
  rcases askStore_cases solitary (.getChild (builder.skeleton cluster).key) state with
    ⟨effect, answer⟩
  generalize (askStore (.getChild (builder.skeleton cluster).key)).run.run environment state =
    reply at effect answer
  rcases reply with ⟨result, middle⟩
  have same : view middle = view state := effect.elim id id
  rcases answer with ⟨error, rfl⟩ | found
  · exact .inl same
  · dsimp only at found
    subst found
    dsimp only [Store.answer]
    rw [← same]
    unfold Store.converge Builder.key
    cases builder.isEnabled cluster with
    | true =>
        cases (view middle).children.get? (builder.skeleton cluster).key with
        | none =>
            dsimp only
            rw [run_run_bind, run_run_result]
            cases builder.update cluster (builder.skeleton cluster) with
            | error error => exact .inl rfl
            | ok child =>
                dsimp only
                rw [run_run_bind_pure_snd]
                exact (askStore_cases solitary (.createChild child) middle).1
        | some observed =>
            dsimp only
            rw [run_run_bind, run_run_result]
            cases builder.update cluster observed with
            | error error => exact .inl rfl
            | ok child =>
                dsimp only
                split
                · exact .inl rfl
                · rw [run_run_bind_pure_snd]
                  exact (askStore_cases solitary (.replaceChild child) middle).1
    | false =>
        cases (view middle).children.get? (builder.skeleton cluster).key with
        | none => exact .inl rfl
        | some observed =>
            dsimp only
            rw [run_run_bind_pure_snd]
            exact (askStore_cases solitary (.deleteChild _) middle).1

theorem midway_convergeEach {start : Store} {builders : List Builder}
    (solitary : environment.Solitary view)
    (midway : Store.Midway cluster start (view state)) :
    Store.Midway cluster start
      (view ((convergeEach cluster builders).run.run environment state).2) := by
  induction builders generalizing state with
  | nil => exact midway
  | cons builder rest ih =>
      have first : Store.Midway cluster start
          (view ((convergeChild cluster builder).run.run environment state).2) := by
        rcases view_run_convergeChild solitary cluster builder state with same | converged
        · rw [same]
          exact midway
        · rw [converged]
          exact midway.converge builder
      dsimp only [convergeEach]
      rw [run_run_bind]
      generalize (convergeChild cluster builder).run.run environment state = reply at first ⊢
      rcases reply with ⟨error | child, middle⟩
      · exact first
      · dsimp only
        rw [run_run_bind_pure_snd]
        exact ih first

theorem midway_of_run {start : Store} {result : Except Error (List Child)}
    (solitary : environment.Solitary view) (midway : Store.Midway cluster start (view state))
    (ran : (convergeChildren cluster).run.run environment state = (result, last)) :
    Store.Midway cluster start (view last) := by
  have left : Store.Midway cluster start
      (view ((convergeChildren cluster).run.run environment state).2) :=
    midway_convergeEach solitary midway
  rw [ran] at left
  exact left

/-- Runs over the children of a cluster, whatever comes of each. Between two of them others may
change everything but the children. -/
inductive Retries (environment : Environment σ) (view : σ → Store) (cluster : Cluster) :
    σ → σ → Prop
  | start (state : σ) : Retries environment view cluster state state
  | again {state middle : σ} (retries : Retries environment view cluster state middle) :
      Retries environment view cluster state
        ((convergeChildren cluster).run.run environment middle).2
  | elsewhere {state middle later : σ} (retries : Retries environment view cluster state middle)
      (change : Store.Change (view middle) (view later))
      (kept : (view later).children = (view middle).children) :
      Retries environment view cluster state later

theorem Retries.midway {later : σ} (solitary : environment.Solitary view)
    (versioned : (view state).Versioned)
    (retries : Retries environment view cluster state later) :
    Store.Midway cluster (view state) (view later) := by
  induction retries with
  | start => exact Store.midway_refl cluster versioned
  | again retries midway => exact midway_of_run solitary midway rfl
  | elsewhere retries change kept midway =>
      exact midway.of_children (change.progress.versioned midway.versioned) kept

/-- A run that succeeds comes to what it would have come to had nothing ever failed. -/
theorem convergeAll_of_run {middle : σ} {children : List Child}
    (solitary : environment.Solitary view)
    (succeeds : (convergeChildren cluster).run.run environment middle = (.ok children, last)) :
    (view middle).convergeAll cluster Builder.all = (.ok children, view last) := by
  let replies : Replies := fun request => .error (.conflict "" "")
  have careful := careful_convergeEach cluster Builder.all [] History.granted_nil
  have granted : Keeps (fun _ _ => True)
      (fun later result => (∃ value, result = .ok value) → later.Granted) []
      (convergeChildren cluster).run := by
    apply careful.mono (fun _ _ any => any)
    intro later result granted good
    rcases good with ⟨value, isOk⟩
    exact granted value isOk
  have alone := run_alone_of_granted solitary replies middle granted
    ⟨children, congrArg Prod.fst succeeds⟩
  rw [succeeds] at alone
  rw [← perform_convergeEach replies cluster Builder.all]
  exact alone

/-- Where all objects of builders are in shape, there are those that there should be. -/
theorem filterMap_of_inShape {store : Store} {builders : List Builder}
    (inShape : ∀ builder ∈ builders,
      builder.InShape cluster (store.children.get? (builder.key cluster))) :
    (builders.filterMap fun builder => store.children.get? (builder.key cluster)).map some =
      (builders.filter (·.isEnabled cluster)).map fun builder =>
        store.children.get? (builder.key cluster) := by
  induction builders with
  | nil => rfl
  | cons builder rest ih =>
      have first := inShape builder (List.mem_cons_self ..)
      have others := ih fun one there => inShape one (List.mem_cons_of_mem _ there)
      cases there : store.children.get? (builder.key cluster) with
      | none =>
          rw [there] at first
          have disabled : builder.isEnabled cluster = false := first
          simp [there, disabled, others]
      | some child =>
          rw [there] at first
          simp [there, first.1, others]

/-- After any number of runs over the children of a cluster that stopped at whatever request, with
or without its effect, a run that succeeds leaves the children as a single run would have left them
from the beginning, but for their versions: all that there should be are in shape, all that there
should not be are gone, and the others are untouched. It returns those that there should be, as they
are stored, in the order in which they are built. -/
theorem children_of_retries {middle : σ} {children : List Child} (replies : Replies)
    (solitary : environment.Solitary view) (reached : (view state).Reached)
    (retries : Retries environment view cluster state middle)
    (succeeds : (convergeChildren cluster).run.run environment middle = (.ok children, last)) :
    ∃ produced single,
      perform replies (convergeChildren cluster) (view state) = (.ok produced, single) ∧
      (∀ key, ((view last).children.get? key).map Child.unversioned =
        (single.children.get? key).map Child.unversioned) ∧
      (∀ builder : Builder,
        builder.InShape cluster ((view last).children.get? (builder.key cluster))) ∧
      (∀ key, (∀ builder : Builder, builder.key cluster ≠ key) →
        (view last).children.get? key = (view state).children.get? key) ∧
      children.map some = (Builder.all.filter (·.isEnabled cluster)).map fun builder =>
        (view last).children.get? (builder.key cluster) := by
  have versioned := reached.versioned
  have distinct := Builder.pairwise_key_ne cluster
  have before := retries.midway solitary versioned
  have after := midway_of_run solitary before succeeds
  have inShape (builder : Builder) :
      builder.InShape cluster ((view last).children.get? (builder.key cluster)) := by
    have converged := Store.converged_convergeAll before.versioned distinct
      (convergeAll_of_run solitary succeeds)
    exact converged.inShape children rfl builder (Builder.mem_all builder)
  have possible (builder : Builder) (_ : builder ∈ Builder.all) : ∃ made,
      builder.Completes cluster ((view state).children.get? (builder.key cluster)) made :=
    ⟨_, after.completes (inShape builder)⟩
  rcases Store.convergeAll_of_completes versioned distinct possible with
    ⟨produced, single, converges⟩
  have performed : perform replies (convergeChildren cluster) (view state) =
      (.ok produced, single) :=
    (perform_convergeEach replies cluster Builder.all (view state)).trans converges
  have alone : Store.Midway cluster (view state) single :=
    midway_of_run (Store.solitary_alone replies) (Store.midway_refl cluster versioned) performed
  have alsoInShape (builder : Builder) :
      builder.InShape cluster (single.children.get? (builder.key cluster)) :=
    (Store.converged_convergeAll versioned distinct converges).inShape produced rfl builder
      (Builder.mem_all builder)
  refine ⟨produced, single, performed, ?_, inShape, fun key => after.others, ?_⟩
  · intro key
    exact after.unique alone inShape alsoInShape
  · rw [Store.convergeAll_ok before.versioned distinct (convergeAll_of_run solitary succeeds)]
    exact filterMap_of_inShape fun builder _ => inShape builder

end Program

/-- A store of whose next requests some fail: for each it is said whether it does, and then whether
it has had its effect. -/
def Store.failing (replies : Replies) : Environment (List (Option Bool) × Store) where
  note _ state := state
  call request state :=
    let (answer, later) := state.2.reply replies request
    match state.1 with
    | some done :: fates => (.error (.conflict "" "lost"), fates, if done then later else state.2)
    | fates => (answer, fates.tail, later)
  timed request state :=
    let (answer, later) := state.2.reply replies request
    match state.1 with
    | some done :: fates => (none, fates, if done then later else state.2)
    | fates => (some answer, fates.tail, later)

theorem Store.solitary_failing (replies : Replies) :
    (Store.failing replies).Solitary Prod.snd := by
  have answered (request : Request) (store : Store) : Served request store
      (some (store.reply replies request).1) (store.reply replies request).2 :=
    (Store.solitary_alone replies).call request store
  have attempted (request : Request) (store : Store) (done : Bool) : Attempted request store
      (if done then (store.reply replies request).2 else store) := by
    cases done with
    | false => exact .undone request store
    | true =>
        cases request with
        | store request => exact .done request store
        | connect cluster => exact .undone (.connect cluster) store
        | server cluster request => exact .undone (.server cluster request) store
        | close cluster => exact .undone (.close cluster) store
  refine ⟨fun _ _ => rfl, ?_, ?_⟩
  · rintro request ⟨fates, store⟩
    rcases fates with _ | ⟨_ | done, fates⟩
    · exact answered request store
    · exact answered request store
    · exact .failed _ (attempted request store done)
  · rintro request ⟨fates, store⟩
    rcases fates with _ | ⟨_ | done, fates⟩
    · exact answered request store
    · exact answered request store
    · exact .late (attempted request store done)

/-- The cluster with a complete spec, as it is known in the store. -/
def Cluster.known : Cluster :=
  { Cluster.complete with
    metadata := { Cluster.complete.metadata with uid := some "uid-apps-dev" } }

/-- A store with a service of the cluster that has no shape yet, and a deployment that there should
not be. -/
def Store.stale : Store :=
  ((({} : Store).createChild (Builder.frontendService.skeleton .known)).2.createChild
    (Builder.uiDeployment.skeleton .known)).2

/-- Servers that know nothing. -/
def Replies.none : Replies := fun _ => .error (.conflict "" "")

namespace Program

/-- Runs over the children of the cluster while some requests fail. -/
def tryOnce (state : List (Option Bool) × Store) :
    Except Error (List Child) × List (Option Bool) × Store :=
  (convergeChildren .known).run.run (Store.failing .none) state

/-- What is left of the store where the request to replace the service has failed twice, the second
time with its effect, and something else has taken a version in between. -/
def halfway : List (Option Bool) × Store :=
  let (fates, store) := (tryOnce ([none, some false, none, some true], .stale)).2
  (tryOnce (fates, store.advance)).2

theorem children_of_halfway :
    let service := Builder.frontendService.key .known
    let versionIn := fun store : Store =>
      (store.children.get? service).bind fun child => child.metadata.resourceVersion
    ∃ children last produced single, tryOnce halfway = (.ok children, last) ∧
      perform .none (convergeChildren .known) .stale = (.ok produced, single) ∧
      versionIn last.2 = some "4" ∧ versionIn single = some "3" ∧
      (last.2.children.get? service).map Child.unversioned =
        (single.children.get? service).map Child.unversioned := by
  intro service versionIn
  have reached : Store.stale.Reached :=
    .change (.change .start (.request _ (.createChild _))) (.request _ (.createChild _))
  have retries : Retries (Store.failing .none) Prod.snd .known
      ([none, some false, none, some true], .stale) halfway :=
    .again (.elsewhere (.again (.start _)) (.editNothing _) rfl)
  have success : ∃ children, (tryOnce halfway).1 = .ok children := ⟨_, rfl⟩
  rcases success with ⟨children, succeeds⟩
  rcases children_of_retries .none (Store.solitary_failing .none) reached retries
    (Prod.ext succeeds rfl) with ⟨produced, single, performed, same, _⟩
  have isSingle : (perform .none (convergeChildren .known) .stale).2 = single := by
    rw [performed]
  refine ⟨children, _, produced, single, Prod.ext succeeds rfl, performed, rfl, ?_, same service⟩
  rw [← isSingle]
  rfl

end Program

end ClusterOperator
