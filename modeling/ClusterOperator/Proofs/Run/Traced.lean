import ClusterOperator.Proofs.Run.Closing
import ClusterOperator.Proofs.Run.Conflict

/-!
# Passes in runs go the ways of their programs

What a pass in a run has asked, and whatever may come of what is left for it to do, is together a
way through the program that it began as. So all that is known of such ways holds in runs: a pass
asks for a patch at its very end, once it is known what came of it.
-/

namespace ClusterOperator

open Program

/-- Whether a request is for a patch. -/
def Request.isPatch : Request → Bool
  | store (.patchCluster _ _) => true
  | store (.patchNamespace _ _) => true
  | _ => false

namespace Program

variable {α : Type} {program : Program α} {calls : List Exchange} {result : α}

theorem Awaits.trace {request : Request} {next : Except Error request.Answer → Program α}
    {answer : Except Error request.Answer} (awaits : program.Awaits request next)
    (trace : Trace (next answer) calls result) :
    Trace program (.answered request answer :: calls) result := by
  cases awaits with
  | call => exact ⟨answer, calls, rfl, trace⟩
  | timed => exact .inr ⟨answer, calls, rfl, trace⟩

theorem Only.of_trace {kind : Request → Prop} (only : Only kind program)
    (trace : Trace program calls result) {exchange : Exchange} (there : exchange ∈ calls) :
    kind exchange.request := by
  have all (history : History)
      (keeps : Keeps (fun _ => kind) (fun _ _ => True) history program) :
      kind exchange.request := by
    clear only
    induction program generalizing calls history with
    | done value =>
        rw [trace.1] at there
        cases there
    | note entry rest ih => exact ih trace there history keeps
    | call request next ih =>
        rcases keeps with ⟨asked, answered⟩
        rcases trace with ⟨answer, later, rfl, trace⟩
        rcases List.mem_cons.mp there with rfl | there
        · exact asked
        · exact ih answer trace there _ (answered answer)
    | timed request cut next cutIh nextIh =>
        rcases keeps with ⟨asked, struck, answered⟩
        rcases trace with ⟨later, rfl, trace⟩ | ⟨answer, later, rfl, trace⟩
        · rcases List.mem_cons.mp there with rfl | there
          · exact asked
          · exact cutIh trace there _ struck
        · rcases List.mem_cons.mp there with rfl | there
          · exact asked
          · exact nextIh answer trace there _ (answered answer)
  exact all [] (only [])

end Program

/-! ### Bodies ask for no patches -/

theorem Cluster.Tends.isPatch_eq_false {cluster : Cluster} {history : History} {request : Request}
    (tends : cluster.Tends history request) : request.isPatch = false := by
  cases tends <;> rfl

theorem Program.only_clusterBody (settings : Settings) (now : Instant) (key : ObjectKey)
    (held : Cluster) : Only (·.isPatch = false) (clusterBody settings now key held) := by
  have converges : Only (·.isPatch = false) (convergeChildren held).run := fun history =>
    (keeps_convergeEach held (fun _ known => known) history).mono
      (fun _ _ tends => tends.isPatch_eq_false) fun _ _ _ => trivial
  dsimp only [clusterBody]
  split
  · split
    · exact only_pure
    · refine converges.limit.bind fun result => ?_
      cases result <;> exact only_pure
  · have replaces : Only (·.isPatch = false) (askStore (.replaceCluster
        { held with spec := held.spec.withDefaults })).run := only_run_ask rfl
    refine replaces.limit.bind fun result => ?_
    cases result <;> exact only_pure

section Bodies

variable {settings : Settings} {now : Instant} {key : ObjectKey} {calls : List Exchange}
  {exchange : Exchange}

theorem Namespace.Inquiry.isPatch_eq_false {held : Namespace}
    {left : Namespace × Except Error Outcome} (inquiry : held.Inquiry settings calls left)
    (there : exchange ∈ calls) : exchange.request.isPatch = false := by
  cases inquiry with
  | unread reads unread =>
      rw [List.mem_singleton.mp there, reads]
      rfl
  | waiting unready =>
      rw [List.mem_singleton.mp there]
      rfl
  | read ready talks =>
      rcases List.mem_cons.mp there with rfl | there
      · rfl
      · have remote := talks.isRemote there
        cases asked : exchange.request with
        | store request =>
            rw [asked] at remote
            cases remote
        | connect cluster => rfl
        | server cluster request => rfl
        | close cluster => rfl

variable {subject : Subject} {outcome : Except Error Outcome}
  {written : Option (Except Error Unit)}

/-- A pass over an object that it read asks for a patch at most once, in the end. -/
theorem Subject.Closes.split (closes : subject.Closes settings now calls outcome written) :
    ∃ front last, calls = front ++ last ∧
      (∀ exchange ∈ front, exchange.request.isPatch = false) ∧
      (written = none ∧ last = [] ∨ ∃ answer final, written = some answer ∧ last = [final]) := by
  have closings {empty : Bool} {asks : Except Error Unit → Exchange} {last : List Exchange}
      (closing : Closing empty asks last written) :
      written = none ∧ last = [] ∨ ∃ answer final, written = some answer ∧ last = [final] := by
    cases closing with
    | idle nothing => exact .inl ⟨rfl, rfl⟩
    | wrote something answer => exact .inr ⟨answer, _, rfl, rfl⟩
  cases closes with
  | @cluster key held _ _ _ body last alive goes closing =>
      refine ⟨_ :: body, last, rfl, ?_, closings closing⟩
      intro exchange there
      rcases List.mem_cons.mp there with rfl | there
      · rfl
      · exact (only_clusterBody settings now key held).of_trace goes there
  | @ns key held _ _ _ body last goes closing =>
      refine ⟨_ :: body, last, rfl, ?_, closings closing⟩
      intro exchange there
      rcases List.mem_cons.mp there with rfl | there
      · rfl
      · exact (inquiry_of_trace goes).isPatch_eq_false there

theorem closes_or_unpatched_of_trace {result : Except Error Action}
    (trace : Trace (subject.program settings now) calls result) :
    (∃ outcome written, subject.Closes settings now calls outcome written) ∨
      ∀ exchange ∈ calls, exchange.request.isPatch = false := by
  have single {request : Request} {answer : Except Error request.Answer}
      (unpatched : request.isPatch = false) (exchange : Exchange)
      (there : exchange ∈ [Exchange.answered request answer]) :
      exchange.request.isPatch = false := by
    rw [List.mem_singleton.mp there]
    exact unpatched
  have spares (spared : subject.Spared calls) (exchange : Exchange) (there : exchange ∈ calls) :
      exchange.request.isPatch = false := by
    cases spared with
    | noCluster => exact single rfl exchange there
    | deletedCluster deleting => exact single rfl exchange there
    | noNamespace => exact single rfl exchange there
  cases subject with
  | cluster key =>
      rcases clusterEnds_of_trace trace with ⟨error, rfl, _⟩ | ⟨spared, _⟩ |
        ⟨outcome, written, closes, _⟩
      · exact .inr fun exchange => single rfl exchange
      · exact .inr (spares spared)
      · exact .inl ⟨outcome, written, closes⟩
  | ns key =>
      rcases namespaceEnds_of_trace trace with ⟨error, rfl, _⟩ | ⟨spared, _⟩ |
        ⟨outcome, written, closes, _⟩
      · exact .inr fun exchange => single rfl exchange
      · exact .inr (spares spared)
      · exact .inl ⟨outcome, written, closes⟩

end Bodies

/-! ### Passes under way -/

/-- Every way on from here ends a way through the program. -/
def Course.Along (program : Program (Except Error Action)) (course : Course) : Prop :=
  ∀ calls result, Trace course.rest calls result →
    Trace program (course.history.reverse ++ calls) result

namespace Course

variable {course later : Course} {turn : Turn} {store laterStore : Store}
  {program : Program (Except Error Action)}

theorem along_begun (fresh : course.history = []) (start : course.rest = program) :
    course.Along program := by
  intro calls result trace
  rw [fresh]
  rw [start] at trace
  exact trace

theorem Along.cons {exchange : Exchange} {rest : Program (Except Error Action)}
    (along : course.Along program)
    (follows : ∀ calls result, Trace rest calls result →
      Trace course.rest (exchange :: calls) result) :
    ({ course with history := exchange :: course.history, rest } : Course).Along program := by
  intro calls result trace
  have whole := along _ _ (follows calls result trace)
  simpa using whole

theorem Takes.along (takes : course.Takes store turn later laterStore)
    (along : course.Along program) : later.Along program := by
  cases takes with
  | note todo =>
      intro calls result trace
      refine along calls result ?_
      rw [todo]
      exact trace
  | answer awaits answered => exact along.cons fun _ _ trace => awaits.trace trace
  | fault awaits error attempted => exact along.cons fun _ _ trace => awaits.trace trace
  | cut todo attempted =>
      refine along.cons fun calls result trace => ?_
      rw [todo]
      exact .inl ⟨calls, rfl, trace⟩

/-- What is asked in a step goes into the history. -/
theorem Takes.asked {request : Request} (takes : course.Takes store turn later laterStore)
    (asked : turn.request? = some request) :
    ∃ exchange, exchange.request = request ∧ later.history = exchange :: course.history := by
  cases takes with
  | note todo => cases asked
  | answer awaits answered => exact ⟨_, Option.some_inj.mp asked, rfl⟩
  | fault awaits error attempted => exact ⟨_, Option.some_inj.mp asked, rfl⟩
  | cut todo attempted => exact ⟨_, Option.some_inj.mp asked, rfl⟩

/-- A pass that asks for a patch asks nothing else after that. -/
theorem Takes.closes_of_patch {settings : Settings} {now : Instant} {request : Request}
    (takes : course.Takes store turn later laterStore)
    (along : later.Along (later.subject.program settings now))
    (asked : turn.request? = some request) (patches : request.isPatch) :
    ∃ outcome answer,
      later.subject.Closes settings now later.history.reverse outcome (some answer) := by
  let refuse : Replies := fun _ => .error (.serialization "")
  rcases takes.asked asked with ⟨exchange, rfl, isHistory⟩
  have whole := along _ _ (trace_follow refuse later.rest)
  rw [isHistory, List.reverse_cons, List.append_assoc] at whole
  rcases closes_or_unpatched_of_trace whole with ⟨outcome, written, closes⟩ | unpatched
  · rcases closes.split with ⟨front, last, same, unpatched, ending⟩
    have notFront : exchange ∉ front := by
      intro there
      rw [unpatched exchange there] at patches
      cases patches
    rcases ending with ⟨_, rfl⟩ | ⟨answer, final, rfl, rfl⟩
    · rw [List.append_nil] at same
      refine absurd ?_ notFront
      simp [← same]
    · rcases List.eq_nil_or_concat (follow refuse later.rest).1 with none | ⟨back, after, more⟩
      · rw [none] at closes
        rw [isHistory, List.reverse_cons]
        exact ⟨outcome, answer, closes⟩
      · rw [more, List.concat_eq_append, ← List.append_assoc, ← List.append_assoc] at same
        rcases List.append_inj' same rfl with ⟨rfl, _⟩
        exact absurd (by simp) notFront
  · have unpatched := unpatched exchange (by simp)
    rw [unpatched] at patches
    cases patches

end Course

namespace Situation

variable {before after start finish situation : Situation} {event : Event} {course : Course}
  {rule : Situation → Event → Situation → Prop} {events : List Event} {pass : Nat}
  {program : Program (Except Error Action)}

theorem Reachable.along (reachable : Reachable situation) (there : course ∈ situation.courses) :
    ∃ settings now, course.Along (course.subject.program settings now) := by
  refine reachable.course_induction
    (fun _ course => ∃ settings now, course.Along (course.subject.program settings now)) there
    ?_ ?_ ?_
  · intro store course settings now fresh start
    exact ⟨settings, now, Course.along_begun fresh start⟩
  · intro store later course progress along
    exact along
  · intro store later course turn next reached takes along
    rcases along with ⟨settings, now, along⟩
    rw [← takes.subject_eq] at along
    exact ⟨settings, now, takes.along along⟩

/-- A pass goes on along the program that it began as. -/
theorem Step.along (step : Step before event after) (there : before.courses[pass]? = some course)
    (along : course.Along program) :
    ∃ later, after.courses[pass]? = some later ∧ later.subject = course.subject ∧
      later.Along program := by
  rcases step.course_of there with ⟨later, found, subject, _⟩
  refine ⟨later, found, subject, ?_⟩
  rcases step.course_at found with ⟨_, same⟩ | ⟨_, new, _⟩ | ⟨earlier, turn, _, same, takes⟩
  · cases there.symm.trans same
    exact along
  · have inside := (List.getElem?_eq_some_iff.mp there).1
    omega
  · cases there.symm.trans same
    exact takes.along along

theorem Run.along (run : Run rule start events finish)
    (there : start.courses[pass]? = some course) (along : course.Along program) :
    ∃ later, finish.courses[pass]? = some later ∧ later.subject = course.subject ∧
      later.Along program := by
  induction run with
  | refl => exact ⟨course, there, rfl, along⟩
  | step run step obeyed ih =>
      rcases ih with ⟨middle, found, subject, along⟩
      rcases step.along found along with ⟨later, stays, same, goes⟩
      exact ⟨later, stays, same.trans subject, goes⟩

end Situation

end ClusterOperator
