import ClusterOperator.Proofs.Run.Invariant

/-!
# Computed runs

A pass goes on by itself once it is known what the servers answer: its next step can be computed,
and so can a number of steps of one pass. The steps that are computed are steps of runs.
-/

namespace ClusterOperator

/-- What servers answer; there is nothing where the deadline strikes before they do. -/
abbrev Servers := (request : Request) → Option (Except Error request.Answer)

/-- The answer to a request, with the store after it. The store is never late. -/
def Servers.answer (servers : Servers) (store : Store) :
    (request : Request) → Option (Except Error request.Answer × Store)
  | .store request => some (store.answer request)
  | .connect cluster => (servers (.connect cluster)).map (·, store)
  | .server cluster request => (servers (.server cluster request)).map (·, store)
  | .close cluster => (servers (.close cluster)).map (·, store)

theorem Servers.answered {servers : Servers} {store later : Store} {request : Request}
    {answer : Except Error request.Answer}
    (answers : servers.answer store request = some (answer, later)) :
    Answered request store answer later := by
  cases request with
  | store request =>
      have both : (answer, later) = store.answer request := (Option.some.inj answers).symm
      rcases Prod.mk.inj both with ⟨rfl, rfl⟩
      exact .store request store
  | connect cluster =>
      rcases Option.map_eq_some_iff.mp answers with ⟨_, _, ⟨⟩⟩
      exact .connect cluster store answer
  | server cluster request =>
      rcases Option.map_eq_some_iff.mp answers with ⟨_, _, ⟨⟩⟩
      exact .server cluster request store answer
  | close cluster =>
      rcases Option.map_eq_some_iff.mp answers with ⟨_, _, ⟨⟩⟩
      exact .close cluster store answer

/-- Servers that do what they are asked. -/
def Servers.obliging : Servers
  | .store _ => none
  | .connect _ => some (.ok ())
  | .server _ (.register _) => some (.ok ())
  | .server _ (.update _) => some (.ok ())
  | .server _ (.delete _) => some (.ok ())
  | .server _ (.listAttributes _) => some (.ok ∅)
  | .server _ (.addAttributes _ _) => some (.ok ())
  | .server _ (.removeAttributes _ _) => some (.ok ())
  | .close _ => some (.ok ())

/-- Servers that do what they are asked, but do not answer in time when a connection is closed. -/
def Servers.lateAtClose : Servers
  | .close _ => none
  | request => obliging request

/-- Whether a request was answered in time. -/
def Exchange.isAnswered : Exchange → Bool
  | answered _ _ => true
  | cut _ => false

/-- The next step of a pass; there is none where it has ended, or has to wait for an answer that is
under no deadline. -/
def Course.go (servers : Servers) (store : Store) (course : Course) :
    Option (Turn × Course × Store) :=
  match course.rest with
  | .done _ => none
  | .note _ rest => some (.noted, { course with rest }, store)
  | .call request next =>
      match servers.answer store request with
      | none => none
      | some (answer, later) =>
          some (.exchanged (.answered request answer),
            { course with
              history := .answered request answer :: course.history
              rest := next answer },
            later)
  | .timed request late next =>
      match servers.answer store request with
      | none =>
          some (.exchanged (.cut request),
            { course with history := .cut request :: course.history, rest := late }, store)
      | some (answer, later) =>
          some (.exchanged (.answered request answer),
            { course with
              history := .answered request answer :: course.history
              rest := next answer },
            later)

/-- A step that is computed is a step, and one at which the store does not fail. -/
theorem Course.takes_of_go {servers : Servers} {store laterStore : Store} {course later : Course}
    {turn : Turn} (went : course.go servers store = some (turn, later, laterStore)) :
    course.Takes store turn later laterStore ∧ ∀ exchange, turn ≠ .faulted exchange := by
  unfold go at went
  split at went
  · cases went
  · cases went
    exact ⟨.note ‹_›, by simp⟩
  · rename_i todo
    split at went
    · cases went
    · cases went
      refine ⟨.answer ?_ (Servers.answered ‹_›), by simp⟩
      rw [todo]
      exact .call _ _
  · rename_i todo
    split at went
    · cases went
      exact ⟨.cut todo (.undone _ _), by simp⟩
    · cases went
      refine ⟨.answer ?_ (Servers.answered ‹_›), by simp⟩
      rw [todo]
      exact .timed _ _ _

namespace Situation

/-- The situation after the next step of a pass, or the same one where there is none. -/
def advance (servers : Servers) (pass : Nat) (situation : Situation) : Situation :=
  match situation.courses[pass]? with
  | none => situation
  | some course =>
      match course.go servers situation.store with
      | none => situation
      | some (_, later, store) => { store, courses := situation.courses.set pass later }

/-- The situation after a number of steps of a pass. -/
def advances (servers : Servers) (pass : Nat) : Nat → Situation → Situation
  | 0, situation => situation
  | steps + 1, situation => (situation.advances servers pass steps).advance servers pass

theorem advance_eq_or_step (servers : Servers) (pass : Nat) (situation : Situation) :
    situation.advance servers pass = situation ∨
      ∃ turn, (∀ exchange, turn ≠ .faulted exchange) ∧
        Step situation (.turn pass turn) (situation.advance servers pass) := by
  unfold advance
  split
  · exact .inl rfl
  · split
    · exact .inl rfl
    · rcases Course.takes_of_go ‹_› with ⟨takes, unfaulted⟩
      exact .inr ⟨_, unfaulted, .turn ‹_› takes⟩

/-- The next step of a pass, where it is known what that is. -/
theorem step_advance {situation : Situation} {pass : Nat} {course later : Course} {turn : Turn}
    {store : Store} (servers : Servers) (there : situation.courses[pass]? = some course)
    (went : course.go servers situation.store = some (turn, later, store)) :
    Step situation (.turn pass turn) (situation.advance servers pass) := by
  unfold advance
  rw [there]
  dsimp only
  rw [went]
  exact .turn there (Course.takes_of_go went).1

theorem Reachable.advances {situation : Situation} (reachable : Reachable situation)
    (servers : Servers) (pass steps : Nat) : Reachable (situation.advances servers pass steps) := by
  induction steps with
  | zero => exact reachable
  | succ steps ih =>
      rcases advance_eq_or_step servers pass (situation.advances servers pass steps) with
        same | ⟨_, _, step⟩
      · rw [Situation.advances, same]
        exact ih
      · exact ih.step step

/-- The computed steps of a pass are a run, by any rule that each of them obeys. -/
theorem exists_run_advances {rule : Situation → Event → Situation → Prop} {servers : Servers}
    {pass steps : Nat} {situation : Situation}
    (obeyed : ∀ step < steps, ∀ turn, (∀ exchange, turn ≠ .faulted exchange) →
      rule (situation.advances servers pass step) (.turn pass turn)
        (situation.advances servers pass (step + 1))) :
    ∃ events, Run rule situation events (situation.advances servers pass steps) := by
  induction steps with
  | zero => exact ⟨[], .refl⟩
  | succ steps ih =>
      rcases ih fun step less => obeyed step (Nat.lt_succ_of_lt less) with ⟨events, run⟩
      rcases advance_eq_or_step servers pass (situation.advances servers pass steps) with
        same | ⟨turn, unfaulted, step⟩
      · rw [advances, same]
        exact ⟨events, run⟩
      · exact ⟨_, run.step step (obeyed steps (Nat.lt_succ_self _) turn unfaulted)⟩

/-- A cluster and a namespace are there, and a pass over the namespace has begun. -/
def ofObjects (cluster : Cluster) (ns : Namespace) : Situation where
  store := ((({} : Store).insertCluster cluster).2.insertNamespace ns).2
  courses := [{ subject := .ns ns.key, rest := (Subject.ns ns.key).program {} default }]

theorem run_ofObjects {rule : Situation → Event → Situation → Prop} (cluster : Cluster)
    (ns : Namespace)
    (first : rule {} .outside { store := (({} : Store).insertCluster cluster).2 })
    (second : rule { store := (({} : Store).insertCluster cluster).2 } .outside
      { store := (ofObjects cluster ns).store })
    (third : rule { store := (ofObjects cluster ns).store } (.began 0) (ofObjects cluster ns)) :
    Run rule {} [.outside, .outside, .began 0] (ofObjects cluster ns) := by
  have one : Run rule {} [.outside] _ := .step .refl (.outside (.insertCluster _ cluster)) first
  have two := one.step (.outside (.insertNamespace _ ns)) second
  exact two.step (.begin _ (.ns ns.key) {} default) third

theorem reachable_ofObjects (cluster : Cluster) (ns : Namespace) :
    Reachable (ofObjects cluster ns) := by
  have run : Run (fun _ _ _ => True) {} _ (ofObjects cluster ns) :=
    run_ofObjects cluster ns trivial trivial trivial
  exact run.reachable .start

end Situation

/-- A cluster that is reported ready. -/
def Cluster.prod : Cluster where
  metadata := { name := some "prod", ns := some "apps" }
  spec := {}
  status := some
    { conditions :=
        [{ type := Condition.readyType, status := .holds, reason := "ServicesReady", message := "",
           since := default }] }

/-- The cluster before anything is reported of it. -/
def Cluster.unreported : Cluster := { prod with status := none }

/-- A namespace on the cluster, which may be deleted. -/
def Namespace.payments : Namespace where
  metadata := { name := some "payments", ns := some "apps" }
  spec := { cluster := { name := "prod" }, allowDeletion := true }
  status := none

/-- The namespace with two finalizers, once its deletion was requested. -/
def Namespace.leaving : Namespace :=
  { payments with
    metadata :=
      { payments.metadata with
        uid := some "payments"
        resourceVersion := some "2"
        generation := some 1
        finalizers := some ["backup", deletionFinalizer]
        deletionTimestamp := some default } }

end ClusterOperator
