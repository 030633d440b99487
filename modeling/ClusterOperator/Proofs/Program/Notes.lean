import ClusterOperator.Pass.Cluster
import ClusterOperator.Pass.Namespace

/-!
# What programs write down

`Program.Notes` says of a program that all it writes down is of a kind, whatever it is answered. It
is computed along the tree of requests, like what is said of the requests themselves.
-/

namespace ClusterOperator

/-- Whether a note is about failures, and not about which namespaces there are. -/
def Note.isSettled : Note → Bool
  | settled _ => true
  | _ => false

namespace Program

variable {α β : Type} {kind : Note → Prop}

/-- All that a program writes down is of a kind. -/
def Notes (kind : Note → Prop) : Program α → Prop
  | done _ => True
  | note entry rest => kind entry ∧ Notes kind rest
  | call _ next => ∀ answer, Notes kind (next answer)
  | timed _ cut next => Notes kind cut ∧ ∀ answer, Notes kind (next answer)

theorem Notes.bind {program : Program α} {after : α → Program β} (first : Notes kind program)
    (second : ∀ value, Notes kind (after value)) : Notes kind (program >>= after) := by
  change Notes kind (program.bind after)
  induction program with
  | done value => exact second value
  | note entry rest ih => exact ⟨first.1, ih first.2⟩
  | call request next ih => exact fun answer => ih answer (first answer)
  | timed request cut next cutIh nextIh =>
      exact ⟨cutIh first.1, fun answer => nextIh answer (first.2 answer)⟩

theorem Notes.limit {program : Program α} {late : α} (notes : Notes kind program) :
    Notes kind (limit late program) := by
  induction program with
  | done value => exact trivial
  | note entry rest ih => exact ⟨notes.1, ih notes.2⟩
  | call request next ih => exact ⟨trivial, fun answer => ih answer (notes answer)⟩
  | timed request cut next cutIh nextIh =>
      exact ⟨trivial, fun answer => nextIh answer (notes.2 answer)⟩

/-! ### Programs that may stop with an error -/

theorem notes_run_throw {error : Error} : Notes kind (throw error : Fallible α).run := trivial

theorem notes_run_ask {request : Request} : Notes kind (ask request).run := fun _ => trivial

theorem notes_run_result {result : Except Error α} :
    Notes kind (liftM result : Fallible α).run := by
  cases result <;> exact trivial

theorem Notes.run_bind {program : Fallible α} {after : α → Fallible β}
    (first : Notes kind program.run) (second : ∀ value, Notes kind (after value).run) :
    Notes kind (program >>= after).run := by
  rw [ExceptT.run_bind]
  refine first.bind fun result => ?_
  cases result with
  | ok value => exact second value
  | error error => exact trivial

theorem Notes.run_lift {program : Program α} (notes : Notes kind program) :
    Notes kind (liftM program : Fallible α).run := by
  change Notes kind (ExceptT.lift program).run
  rw [ExceptT.run_lift, map_eq_pure_bind]
  exact notes.bind fun _ => trivial

theorem Notes.run_attempt {program : Fallible α} (notes : Notes kind program.run) :
    Notes kind (attempt program).run :=
  notes.run_lift

theorem notes_tell {request : Request} : Notes kind (tell request) := fun _ => trivial

/-! ### Passes -/

theorem notes_convergeChild (cluster : Cluster) (builder : Builder) :
    Notes kind (convergeChild cluster builder).run := by
  dsimp only [convergeChild]
  refine notes_run_ask.run_bind fun current => ?_
  split
  · exact notes_run_result.run_bind fun child => notes_run_ask.run_bind fun created => trivial
  · refine notes_run_result.run_bind fun child => ?_
    split
    · exact trivial
    · exact notes_run_ask.run_bind fun replaced => trivial
  · exact trivial
  · exact notes_run_ask.run_bind fun deleted => trivial

theorem notes_convergeEach (cluster : Cluster) (builders : List Builder) :
    Notes kind (convergeEach cluster builders).run := by
  induction builders with
  | nil => exact trivial
  | cons builder rest ih =>
      refine (notes_convergeChild cluster builder).run_bind fun child => ?_
      exact ih.run_bind fun children => trivial

theorem notes_withConnection {cluster : Cluster} {use : Fallible α} (notes : Notes kind use.run) :
    Notes kind (withConnection cluster use).run := by
  refine notes_run_ask.run_bind fun connected => notes.run_attempt.run_bind fun result => ?_
  exact notes_tell.run_lift.run_bind fun closed => notes_run_result

theorem notes_deleteRemote (cluster : Cluster) (held : Namespace) :
    Notes kind (deleteRemote cluster held).run := by
  refine (notes_withConnection notes_run_ask.run_attempt).run_bind fun deleted => ?_
  cases deleted with
  | ok deleted => exact trivial
  | error error =>
      dsimp only
      split <;> exact trivial

theorem notes_convergeAttributes (cluster : Cluster) (name : String) (spec : StringMap String) :
    Notes kind (convergeAttributes cluster name spec).run := by
  refine notes_run_ask.run_bind fun present => notes_run_result.run_bind fun plan => ?_
  have additions : Notes kind (if !plan.additions.isEmpty then do
      askServer cluster (.addAttributes name plan.additions)
      pure plan
    else pure plan : Fallible AttributePlan).run := by
    split
    · exact notes_run_ask.run_bind fun added => trivial
    · exact trivial
  dsimp only
  split
  · exact notes_run_ask.run_bind fun removed => additions
  · exact additions

theorem notes_register (cluster : Cluster) (held : Namespace) :
    Notes kind (register cluster held).run := by
  have attributes (name : String) : Notes kind (discard <|
      convergeAttributes cluster name held.spec.searchAttributes : Fallible Unit).run :=
    (notes_convergeAttributes cluster name _).run_bind fun plan => trivial
  refine notes_run_ask.run_attempt.run_bind fun registered => ?_
  cases registered with
  | ok registered => exact attributes _
  | error error =>
      dsimp only
      split
      · exact notes_run_ask.run_bind fun updated => attributes _
      · exact notes_run_throw.run_bind fun never => attributes _

section Passes

variable (settings : Settings) (now : Instant) (key : ObjectKey)

/-- What is under the deadline writes nothing down. -/
theorem notes_clusterBody (held : Cluster) : Notes kind (clusterBody settings now key held) := by
  dsimp only [clusterBody]
  split
  · split
    · exact trivial
    · refine (notes_convergeEach held Builder.all).limit.bind fun result => ?_
      cases result <;> exact trivial
  · refine notes_run_ask.limit.bind fun result => ?_
    cases result <;> exact trivial

theorem notes_namespaceBody (held : Namespace) :
    Notes kind (namespaceBody settings now key held) := by
  dsimp only [namespaceBody]
  refine (notes_run_ask.run_bind fun cluster => notes_run_result).limit.bind fun task => ?_
  cases task with
  | error error => exact trivial
  | ok task =>
      cases task with
      | release => exact trivial
      | wait => exact trivial
      | leave => exact trivial
      | delete cluster =>
          refine (notes_deleteRemote cluster held).limit.bind fun result => ?_
          cases result <;> exact trivial
      | converge cluster =>
          refine (notes_withConnection (notes_register cluster _)).limit.bind fun result => ?_
          cases result <;> exact trivial

/-- In the end a pass writes down at most that earlier failures no longer count. -/
theorem notes_closing {failureKey : String} {empty : Bool} {write : Fallible Unit}
    {outcome : Except Error Outcome} (notes : Notes (·.isSettled) write.run) :
    Notes (·.isSettled) (do
      let written ← if empty then pure (.ok ()) else attempt write
      conclude failureKey (settle outcome written) : Fallible Action).run := by
  have concludes (outcome : Except Error Outcome) :
      Notes (·.isSettled) (conclude failureKey outcome).run := by
    cases outcome with
    | ok outcome => exact ⟨rfl, trivial⟩
    | error error =>
        dsimp only [conclude]
        split <;> exact trivial
  dsimp only
  split
  · exact concludes _
  · exact notes.run_attempt.run_bind fun written => concludes _

theorem notes_reconcileCluster : Notes (·.isSettled) (reconcileCluster settings now key).run := by
  refine notes_run_ask.run_bind fun found => ?_
  cases found with
  | none => exact ⟨rfl, trivial⟩
  | some held =>
      dsimp only
      split
      · exact ⟨rfl, trivial⟩
      · refine (notes_clusterBody settings now key held).run_lift.run_bind fun left => ?_
        exact notes_closing notes_run_ask

end Passes

end Program

/-- What a pass over a namespace writes down about what it has found. -/
def Note.found (key : ObjectKey) : Option Namespace → Note
  | none => .unlisted key
  | some held => .listed held

/-- A pass over a namespace reads its object and writes down what it has found, before anything
else, and then writes down nothing more about it. -/
theorem Program.notes_reconcileNamespace (settings : Settings) (now : Instant) (key : ObjectKey) :
    ∃ next, (reconcileNamespace settings now key).run = .call (.store (.getNamespace key)) next ∧
      (∀ error, Notes (·.isSettled) (next (.error error))) ∧
      ∀ found, ∃ rest, next (.ok found) = .note (Note.found key found) rest ∧
        Notes (·.isSettled) rest := by
  refine ⟨_, rfl, fun error => trivial, fun found => ?_⟩
  cases found with
  | none => exact ⟨_, rfl, rfl, trivial⟩
  | some held =>
      refine ⟨_, rfl, ?_⟩
      refine (notes_namespaceBody settings now key held).run_lift.run_bind fun left => ?_
      exact notes_closing notes_run_ask

end ClusterOperator
