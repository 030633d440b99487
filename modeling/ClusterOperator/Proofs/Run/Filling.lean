import ClusterOperator.Proofs.Cluster.Rereading
import ClusterOperator.Proofs.Program.Trace
import ClusterOperator.Proofs.Run.Writes

/-!
# Specs that are filled in, in runs

A pass replaces a spec only where it has read one in which something is open, and the store takes
the replacement only while that is what is stored. After it nothing is open. So until somebody else
opens the spec again it is not replaced another time, and passes do not even try.
-/

namespace ClusterOperator

namespace Store

/-- The spec of a cluster as it is stored. -/
def spec? (store : Store) (key : ObjectKey) : Option ClusterSpec :=
  (store.clusters.get? key).map Resource.spec

/-- Nothing is open in the spec of a cluster, if there is the cluster. -/
def Normal (store : Store) (key : ObjectKey) : Prop :=
  ∀ spec, store.spec? key = some spec → spec.isNormal

variable {store : Store} {key : ObjectKey} {cluster : Cluster}

theorem spec?_eq (there : store.clusters.get? key = some cluster) :
    store.spec? key = some cluster.spec :=
  congrArg (Option.map Resource.spec) there

theorem spec?_patchCluster (key : ObjectKey) (patch : ObjectPatch ClusterStatus) :
    (store.patchCluster key patch).2.spec? key = store.spec? key := by
  dsimp only [patchCluster]
  split
  · rfl
  · rename_i held accepted
    have there : store.clusters.get? key = some held := (writable_eq_ok accepted).1
    rw [spec?_eq there]
    exact congrArg (Option.map Resource.spec) (SortedMap.get?_insert_self _ _ _)

theorem spec?_replaceCluster {replacement : Cluster}
    (there : store.clusters.get? replacement.metadata.storageKey = some cluster)
    (bound : replacement.metadata.resourceVersion = cluster.metadata.resourceVersion) :
    (store.replaceCluster replacement).2.spec? replacement.metadata.storageKey =
      some replacement.spec := by
  rw [replaceCluster_of_current there bound]
  exact congrArg (Option.map Resource.spec) (SortedMap.get?_insert_self _ _ _)

end Store

theorem ClusterSpec.isNormal_withDefaults (spec : ClusterSpec) : spec.withDefaults.isNormal :=
  decide_eq_true spec.withDefaults_withDefaults

namespace Cluster.Asks

variable {key : ObjectKey} {history : History} {request : StoreRequest}

/-- What a pass asks to be replaced is what it has read, with something open filled in. -/
theorem read_of_replace {replacement : Cluster}
    (asks : Asks key history (.store (.replaceCluster replacement))) :
    ∃ held, history.ReadCluster key held ∧ held.spec.isNormal = false ∧
      replacement = { held with spec := held.spec.withDefaults } := by
  cases asks with
  | fill read opened => exact ⟨_, read, opened, rfl⟩
  | tend read normal tends => cases tends

/-- A pass writes its object in two ways. -/
theorem write_cases {subject : Subject} {version : Option String}
    (asks : Asks key history (.store request)) (writes : request.Overwrites subject version) :
    (∃ replacement, request = .replaceCluster replacement) ∨
      ∃ patch, request = .patchCluster key patch := by
  cases asks with
  | object => cases writes
  | fill read opened => exact .inl ⟨_, rfl⟩
  | tend read normal tends => cases tends <;> cases writes
  | write now result read same => exact .inr ⟨_, rfl⟩

end Cluster.Asks

/-- A pass replaces the spec of a cluster, and the store takes it; the pass need not be told so. -/
inductive Situation.Fills (key : ObjectKey) : Situation → Event → Situation → Prop
  | intro {before after : Situation} {pass : Nat} {turn : Turn} {replacement stored : Cluster}
      (asked : turn.request? = some (.store (.replaceCluster replacement)))
      (own : replacement.metadata.storageKey = key)
      (accepted : (before.store.answer (.replaceCluster replacement)).1 = .ok stored)
      (becomes : after.store = (before.store.answer (.replaceCluster replacement)).2) :
      Fills key before (.turn pass turn) after

/-- Whatever others do, they leave the spec of a cluster as it is, or with nothing open. -/
def Situation.LeavesSpec (key : ObjectKey) (before : Situation) (event : Event)
    (after : Situation) : Prop :=
  event = .outside → after.store.spec? key = before.store.spec? key ∨ after.store.Normal key

namespace Course

variable {course later : Course} {turn : Turn} {store laterStore : Store} {held : CustomResource}
  {request : StoreRequest} {key : ObjectKey}

/-- A pass that replaces its cluster fills in the spec that is stored. -/
theorem Amends.spec?_of_replace {replacement : Cluster}
    (amends : course.Amends turn store laterStore held (.replaceCluster replacement))
    (subject : course.subject = .cluster key)
    (follows : course.history.Follows course.subject.Asks) :
    ∃ spec, store.spec? key = some spec ∧ spec.isNormal = false ∧
      laterStore.spec? key = some spec.withDefaults := by
  rcases amends.read with ⟨exchange, asked, reads⟩
  have stored := amends.stored
  have writes := amends.overwrites
  have asks := amends.asks
  rw [subject] at stored writes asks
  rcases Cluster.Asks.read_of_replace asks with ⟨cluster, read, opened, rfl⟩
  have readsToo := Exchange.Reads.cluster key cluster
  rw [← subject] at readsToo
  cases follows.reads_unique asked reads read readsToo
  rcases Option.map_eq_some_iff.mp stored with ⟨_, there, ⟨⟩⟩
  cases writes
  refine ⟨cluster.spec, Store.spec?_eq there, opened, ?_⟩
  rw [amends.becomes]
  exact Store.spec?_replaceCluster there rfl

/-- A pass that writes its cluster leaves the spec as it is, or fills it in. -/
theorem Amends.spec_cases (amends : course.Amends turn store laterStore held request)
    (subject : course.subject = .cluster key)
    (follows : course.history.Follows course.subject.Asks) :
    laterStore.spec? key = store.spec? key ∨
      ∃ spec, store.spec? key = some spec ∧ spec.isNormal = false ∧
        laterStore.spec? key = some spec.withDefaults := by
  have asks := amends.asks
  rw [subject] at asks
  rcases Cluster.Asks.write_cases asks amends.overwrites with ⟨_, rfl⟩ | ⟨patch, rfl⟩
  · exact .inr (amends.spec?_of_replace subject follows)
  · rw [amends.becomes]
    exact .inl (Store.spec?_patchCluster key patch)

end Course

namespace Store

variable {store later : Store} {key : ObjectKey}

theorem spec?_of_stored?
    (same : (Subject.cluster key).stored? later = (Subject.cluster key).stored? store) :
    later.spec? key = store.spec? key := by
  have clusters : later.clusters.get? key = store.clusters.get? key := by
    refine Option.map_injective ?_ same
    rintro first second ⟨⟩
    rfl
  exact congrArg (Option.map Resource.spec) clusters

theorem Normal.of_spec? (normal : store.Normal key) (same : later.spec? key = store.spec? key) :
    later.Normal key :=
  fun spec is => normal spec (same.symm.trans is)

theorem normal_of_filled {spec : ClusterSpec} (filled : later.spec? key = some spec.withDefaults) :
    later.Normal key := by
  intro other is
  cases filled.symm.trans is
  exact spec.isNormal_withDefaults

end Store

/-- A cluster with managed certificates, for which a service is declared in part. -/
def Cluster.encrypted : Cluster :=
  { prod with
    spec :=
      { services := some { history := some { replicas := some 3, port := some 7300 } }
        mutualTls := some
          { provider := some certManager, refreshInterval := some (.ofMilliseconds 90_500) } } }

namespace Situation

variable {before after start finish : Situation} {event : Event} {events : List Event}
  {key : ObjectKey}

/-- In a step of a pass a spec stays as it is, or is filled in. -/
theorem Step.spec_cases (step : Step before event after) (reachable : Reachable before)
    (key : ObjectKey) :
    event = .outside ∨ after.store.spec? key = before.store.spec? key ∨
      ∃ spec, before.store.spec? key = some spec ∧ spec.isNormal = false ∧
        after.store.spec? key = some spec.withDefaults := by
  cases step with
  | outside change => exact .inl rfl
  | begin subject settings now => exact .inr (.inl rfl)
  | turn found takes =>
      have there := List.mem_of_getElem? found
      rcases reachable.amends_of_changed there takes (.cluster key) with
        same | ⟨subject, held, request, amends⟩
      · exact .inr (.inl (Store.spec?_of_stored? same))
      · exact .inr (amends.spec_cases subject.symm (reachable.course_keeps there).follows)

/-- What is replaced was open, and is filled in. -/
theorem Fills.spec? (fills : Fills key before event after) (step : Step before event after)
    (reachable : Reachable before) :
    ∃ spec, before.store.spec? key = some spec ∧ spec.isNormal = false ∧
      after.store.spec? key = some spec.withDefaults := by
  cases fills with
  | @intro _ _ _ replacement _ asked own accepted becomes =>
    cases step with
    | turn found takes =>
      have there := List.mem_of_getElem? found
      have writes := StoreRequest.Overwrites.replaceCluster replacement
      rw [own] at writes
      rcases reachable.amends_of_accepted there takes asked writes accepted becomes with
        ⟨subject, held, amends⟩
      exact amends.spec?_of_replace subject.symm (reachable.course_keeps there).follows

theorem Step.normal (step : Step before event after) (reachable : Reachable before)
    (leaves : LeavesSpec key before event after) (normal : before.store.Normal key) :
    after.store.Normal key := by
  rcases step.spec_cases reachable key with isOutside | same | ⟨spec, _, _, filled⟩
  · rcases leaves isOutside with same | closed
    · exact normal.of_spec? same
    · exact closed
  · exact normal.of_spec? same
  · exact Store.normal_of_filled filled

/-- A spec in which nothing is open stays so until others open it. -/
theorem Run.normal (run : Run (LeavesSpec key) start events finish) (reachable : Reachable start)
    (normal : start.store.Normal key) : finish.store.Normal key := by
  induction run with
  | refl => exact normal
  | step run step obeyed ih => exact step.normal (run.reachable reachable) obeyed ih

theorem not_fills_of_normal (step : Step before event after) (reachable : Reachable before)
    (normal : before.store.Normal key) : ¬ Fills key before event after := by
  intro fills
  rcases fills.spec? step reachable with ⟨spec, is, opened, _⟩
  rw [normal spec is] at opened
  cases opened

/-- A pass that reads a spec in which nothing is open never asks for another one. -/
theorem Reachable.not_replace_of_read {course : Course} {held replacement : Cluster}
    (reachable : Reachable before) (there : course ∈ before.courses)
    (subject : course.subject = .cluster key) (read : course.history.ReadCluster key held)
    (normal : held.spec.isNormal) :
    ¬ course.history.Asked (.store (.replaceCluster replacement)) := by
  rintro ⟨exchange, asked, is⟩
  have follows := (reachable.course_keeps there).follows
  rcases follows.past asked with ⟨past, suffix, asks⟩
  rw [is, subject] at asks
  rcases Cluster.Asks.read_of_replace asks with ⟨other, readToo, opened, _⟩
  have reads := Exchange.Reads.cluster key held
  have readsToo := Exchange.Reads.cluster key other
  rw [← subject] at reads readsToo
  have also := suffix.subset (List.mem_cons_of_mem _ readToo)
  cases follows.reads_unique read reads also readsToo
  rw [normal] at opened
  cases opened

/-- Nor does a pass that reads the cluster while nothing is open in the spec. -/
theorem Step.not_replace_of_reads {rule : Situation → Event → Situation → Prop} {pass : Nat}
    {exchange : Exchange} {course : Course} {held replacement : Cluster}
    (step : Step before (.turn pass (.exchanged exchange)) after) (reachable : Reachable before)
    (normal : before.store.Normal key) (reads : exchange.Reads (.cluster key) (.cluster held))
    (run : Run rule after events finish) (there : finish.courses[pass]? = some course)
    (subject : course.subject = .cluster key) :
    ¬ course.history.Asked (.store (.replaceCluster replacement)) := by
  cases step with
  | turn found takes =>
    have inside := (List.getElem?_eq_some_iff.mp found).1
    rcases run.course_of (List.getElem?_set_self inside) with ⟨_, isThere, _, suffix⟩
    cases there.symm.trans isThere
    have stored := (takes.stored_of_reads reads).2
    rcases Option.map_eq_some_iff.mp stored with ⟨_, isStored, ⟨⟩⟩
    have known := suffix.subset takes.exchanged_mem
    have isNormal := normal held.spec (Store.spec?_eq isStored)
    cases reads
    have reachableFinish := run.reachable (reachable.step (.turn found takes))
    exact reachableFinish.not_replace_of_read (List.mem_of_getElem? there) subject known isNormal

/-- Filling in a spec reports a change exactly where it makes one, which is where something that has
a default is unset; it keeps all that is set, and doing it again changes nothing. From its document
a spec that is filled in is read back with all that it says, each span of time as the text of the
span says it: the user's spans are the only ones that can differ, and nothing is open. A pass asks
for a spec to be replaced only by what it has read in this very pass with something open, filled in.
In a run, once the store has taken such a replacement, it takes no other one and passes that read the
cluster ask for none, until others open the spec. -/
theorem withDefaults_stored_until_opened :
    (∀ spec : ClusterSpec,
      (spec.isNormal = false ↔ spec.withDefaults ≠ spec) ∧ (spec.isNormal ↔ spec.Complete) ∧
      spec.Keeps spec.withDefaults ∧
      spec.withDefaults.isNormal ∧ spec.withDefaults.withDefaults = spec.withDefaults ∧
      (spec.FitsWords → (∀ span ∈ spec.spans, span.Legible) →
        ClusterSpec.ofJson? spec.withDefaults.toJson =
            some (spec.withDefaults.mapSpans Duration.reread) ∧
          spec.withDefaults.mapSpans Duration.reread =
            (spec.mapSpans Duration.reread).withDefaults ∧
          (spec.withDefaults.mapSpans Duration.reread).isNormal)) ∧
    (∀ (settings : Settings) (now : Instant) (key : ObjectKey) (front back : List Exchange)
      (exchange : Exchange) (replacement : Cluster) (result : Except Error Action),
      Program.Trace (Program.reconcileCluster settings now key).run
        (front ++ exchange :: back) result →
      exchange.request = .store (.replaceCluster replacement) →
      ∃ held, .answered (.store (.getCluster key)) (.ok (some held)) ∈ front ∧
        held.spec.isNormal = false ∧
        replacement = { held with spec := held.spec.withDefaults }) ∧
    ∀ (key : ObjectKey) (start first before after : Situation) (filling event : Event)
      (events : List Event),
      Reachable start → Step start filling first → Fills key start filling first →
      Run (LeavesSpec key) first events before → Step before event after →
      ¬ Fills key before event after ∧
      ∀ (pass : Nat) (exchange : Exchange) (held : Cluster) (rule : _) (further : List Event)
        (finish : Situation) (course : Course) (replacement : Cluster),
        event = .turn pass (.exchanged exchange) →
        exchange.Reads (.cluster key) (.cluster held) →
        Run rule after further finish → finish.courses[pass]? = some course →
        course.subject = .cluster key →
        ¬ course.history.Asked (.store (.replaceCluster replacement)) := by
  refine ⟨fun spec => ⟨?_, spec.isNormal_iff_complete, spec.keeps_withDefaults,
    spec.isNormal_withDefaults, spec.withDefaults_withDefaults, fun fits legible => ?_⟩, ?_, ?_⟩
  · exact decide_eq_false_iff_not
  · refine ⟨ClusterSpec.ofJson?_withDefaults fits legible, spec.mapSpans_withDefaults, ?_⟩
    rw [spec.mapSpans_withDefaults]
    exact ClusterSpec.isNormal_withDefaults _
  · intro settings now key front back exchange replacement result trace asked
    have asks := (Program.keeps_reconcileCluster settings now key).allowed_of_trace trace
    rw [asked, List.append_nil] at asks
    rcases Cluster.Asks.read_of_replace asks with ⟨held, read, opened, is⟩
    exact ⟨held, List.mem_reverse.mp read, opened, is⟩
  · intro key start first before after filling event events reachable fillsStep fills run step
    rcases fills.spec? fillsStep reachable with ⟨spec, _, _, filled⟩
    have reachableFirst := reachable.step fillsStep
    have normal := run.normal reachableFirst (Store.normal_of_filled filled)
    have reachableBefore := run.reachable reachableFirst
    refine ⟨not_fills_of_normal step reachableBefore normal, ?_⟩
    intro pass exchange held rule further finish course replacement is reads later there subject
    subst is
    exact step.not_replace_of_reads reachableBefore normal reads later there subject

/-- A pass over a cluster with an open spec fills that in, and the next one reads it. -/
theorem withDefaults_stored_until_opened_of_encrypted :
    let subject : Subject := .cluster Cluster.encrypted.key
    let pass : Course := { subject, rest := subject.program {} default }
    let begun : Situation :=
      { store := (({} : Store).insertCluster .encrypted).2, courses := [pass] }
    let filled := begun.advances .obliging 0 2
    let again : Situation := { filled with courses := filled.courses ++ [pass] }
    let finish := (again.advance .obliging 1).advances .obliging 1 19
    (∃ back mutualTls lifetimes, ClusterSpec.ofJson? Cluster.encrypted.spec.withDefaults.toJson =
        some back ∧ back.isNormal ∧
      back.mutualTls = some mutualTls ∧ mutualTls.lifetimes = some lifetimes ∧
      mutualTls.refreshInterval = some (.ofMilliseconds 90_500) ∧
      lifetimes.rootCa = some (.ofHours 87600) ∧
      (back.role? .history).bind RoleSpec.port = some 7300 ∧
      (back.role? .history).bind RoleSpec.membershipPort = some 6934) ∧
    ∃ course, finish.courses[1]? = some course ∧
      ∀ replacement, ¬ course.history.Asked (.store (.replaceCluster replacement)) := by
  intro subject pass begun filled again finish
  have isBegun : Run (fun _ _ _ => True) {} [.outside, .began 0] begun :=
    .step (.step .refl (.outside (.insertCluster _ .encrypted)) trivial)
      (.begin _ subject {} default) trivial
  have reachable := (isBegun.reachable .start).advances .obliging 0 1
  let sent : Cluster :=
    { (({} : Store).insertCluster .encrypted).1 with spec := Cluster.encrypted.spec.withDefaults }
  obtain ⟨turn, fillsStep, fills⟩ : ∃ turn,
      Step (begun.advances .obliging 0 1) (.turn 0 turn) filled ∧
        Fills Cluster.encrypted.key (begun.advances .obliging 0 1) (.turn 0 turn) filled :=
    ⟨_, step_advance .obliging rfl rfl, @Fills.intro _ _ _ _ _ sent _ rfl rfl rfl rfl⟩
  have begins : Run (LeavesSpec Cluster.encrypted.key) filled [.began 1] again :=
    .step .refl (.begin _ (.cluster Cluster.encrypted.key) {} default) nofun
  have reads : Step again (.turn 1 (.exchanged _)) (again.advance .obliging 1) :=
    step_advance .obliging rfl rfl
  have goes : ∃ events, Run (fun _ _ _ => True) (again.advance .obliging 1) events finish :=
    exists_run_advances fun _ _ _ _ => trivial
  rcases goes with ⟨events, goes⟩
  obtain ⟨reader, stays, isOver⟩ : ∃ reader, (again.advance .obliging 1).courses[1]? = some reader ∧
      reader.subject = subject := ⟨_, rfl, rfl⟩
  rcases goes.course_of stays with ⟨course, there, same, _⟩
  have untouched := withDefaults_stored_until_opened.2.2 _ _ filled again _ _ _ _ reachable
    fillsStep fills begins reads
  have fits : Cluster.encrypted.spec.FitsWords := by
    intro role settings declared
    cases role <;> cases declared
    constructor <;> rintro number ⟨⟩ <;> decide
  have said : Duration.read? (Duration.ofMilliseconds 90_500).toText =
      some (.ofMilliseconds 90_500) := by
    decide +kernel
  have interval : (Duration.ofMilliseconds 90_500).reread = .ofMilliseconds 90_500 := by
    rw [Duration.reread, said]
    rfl
  have legible : ∀ span ∈ Cluster.encrypted.spec.spans, span.Legible := by
    intro span there
    cases List.mem_singleton.mp there
    exact Option.isSome_iff_exists.mpr ⟨_, said⟩
  rcases (withDefaults_stored_until_opened.1 Cluster.encrypted.spec).2.2.2.2.2 fits legible with
    ⟨isRead, isFilled, normal⟩
  rw [isFilled] at isRead normal
  refine ⟨⟨_, _, _, isRead, normal, rfl, rfl, ?_, rfl, rfl, rfl⟩, course, there, ?_⟩
  · exact congrArg some interval
  intro replacement
  exact untouched.2 1 _ _ _ _ _ _ replacement rfl (.cluster _ _) goes there (same.trans isOver)

end Situation

end ClusterOperator
