import ClusterOperator.Program.Basic

/-!
# What programs ask

A history lists the requests that a program has made, each with what came of it. `Program.Keeps`
says of a program, whoever answers it and whatever the answers are, that it makes each request only
after a history that allows the request, and that the value it ends in goes with the whole history.

The predicate is computed by recursion on the tree of requests, so a statement about a pass is taken
apart along the `do` blocks that the pass is written in: there is one rule for each way in which
programs are put together.
-/

namespace ClusterOperator

/-- A request that was made, with what came of it. -/
inductive Exchange where
  | answered (request : Request) (answer : Except Error request.Answer)
  /-- The deadline struck; what was asked for may or may not have happened. -/
  | cut (request : Request)

/-- The request of an exchange. -/
@[simp]
def Exchange.request : Exchange → Request
  | answered request _ => request
  | cut request => request

/-- What a program has asked so far, the last request first. -/
abbrev History := List Exchange

namespace History

/-- The request was made. -/
def Asked (history : History) (request : Request) : Prop :=
  ∃ exchange ∈ history, exchange.request = request

@[simp]
theorem asked_nil {request : Request} : ¬ Asked [] request := by
  rintro ⟨exchange, ⟨⟩, _⟩

@[simp]
theorem asked_cons {exchange : Exchange} {history : History} {request : Request} :
    Asked (exchange :: history) request ↔ exchange.request = request ∨ Asked history request := by
  simp only [Asked, List.mem_cons, exists_eq_or_imp]

/-- Every request of a history was made after a history that allows it. -/
def Follows (allowed : History → Request → Prop) : History → Prop
  | [] => True
  | exchange :: history => allowed history exchange.request ∧ Follows allowed history

/-- An exchange of a pass that follows its rule has the exchanges before it as its past. -/
theorem Follows.past {allowed : History → Request → Prop} {history : History}
    {exchange : Exchange} (follows : history.Follows allowed) (asked : exchange ∈ history) :
    ∃ past, (exchange :: past) <:+ history ∧ allowed past exchange.request := by
  induction history with
  | nil => cases asked
  | cons last history ih =>
      rcases follows with ⟨lastAllowed, follows⟩
      rcases List.mem_cons.mp asked with rfl | asked
      · exact ⟨history, List.suffix_refl _, lastAllowed⟩
      · rcases ih follows asked with ⟨past, suffix, asks⟩
        exact ⟨past, suffix.trans (List.suffix_cons _ _), asks⟩

/-- What may be asked only in the first place is asked once. -/
theorem Follows.eq_of_first {allowed : History → Request → Prop} {history : History}
    {request : Request} {first second : Exchange} (follows : history.Follows allowed)
    (only : ∀ past, allowed past request → past = [])
    (asked : first ∈ history) (isIt : first.request = request)
    (also : second ∈ history) (isToo : second.request = request) : first = second := by
  have last (exchange : Exchange) (asked : exchange ∈ history) (isIt : exchange.request = request) :
      history.getLast? = some exchange := by
    rcases follows.past asked with ⟨past, suffix, asks⟩
    rw [isIt] at asks
    rw [only past asks] at suffix
    rcases suffix with ⟨front, rfl⟩
    exact List.getLast?_concat
  have both := (last first asked isIt).symm.trans (last second also isToo)
  exact Option.some_inj.mp both

end History

namespace Program

/-- Every request is made after a history that allows it, and the value goes with the history. -/
def Keeps {α : Type} (allowed : History → Request → Prop) (fits : History → α → Prop) :
    History → Program α → Prop
  | history, done value => fits history value
  | history, note _ rest => Keeps allowed fits history rest
  | history, call request next =>
      allowed history request ∧
        ∀ answer, Keeps allowed fits (.answered request answer :: history) (next answer)
  | history, timed request cut next =>
      allowed history request ∧
        Keeps allowed fits (.cut request :: history) cut ∧
        ∀ answer, Keeps allowed fits (.answered request answer :: history) (next answer)

variable {α β : Type} {allowed : History → Request → Prop} {history : History}

theorem Keeps.mono {weaker : History → Request → Prop} {fits weakerFits : History → α → Prop}
    {program : Program α}
    (request_le : ∀ history request, allowed history request → weaker history request)
    (value_le : ∀ history value, fits history value → weakerFits history value)
    (keeps : Keeps allowed fits history program) :
    Keeps weaker weakerFits history program := by
  induction program generalizing history with
  | done value => exact value_le history value keeps
  | note entry rest ih => exact ih keeps
  | call request next ih =>
      rcases keeps with ⟨asked, answered⟩
      exact ⟨request_le history request asked, fun answer => ih answer (answered answer)⟩
  | timed request cut next cutIh nextIh =>
      rcases keeps with ⟨asked, struck, answered⟩
      exact ⟨request_le history request asked, cutIh struck,
        fun answer => nextIh answer (answered answer)⟩

@[simp]
theorem keeps_pure {fits : History → α → Prop} {value : α} :
    Keeps allowed fits history (pure value) ↔ fits history value :=
  Iff.rfl

/-- What follows a program starts from the history that the program leaves. -/
@[simp]
theorem keeps_bind {fits : History → β → Prop} {program : Program α} {after : α → Program β} :
    Keeps allowed fits history (program >>= after) ↔
      Keeps allowed (fun history value => Keeps allowed fits history (after value))
        history program := by
  change Keeps allowed fits history (program.bind after) ↔ _
  induction program generalizing history with
  | done value => exact Iff.rfl
  | note entry rest ih => exact ih
  | call request next ih => simp only [bind, Keeps, ih]
  | timed request cut next cutIh nextIh => simp only [bind, Keeps, cutIh, nextIh]

@[simp]
theorem keeps_map {fits : History → β → Prop} {program : Program α} {change : α → β} :
    Keeps allowed fits history (change <$> program) ↔
      Keeps allowed (fun history value => fits history (change value)) history program := by
  rw [map_eq_pure_bind, keeps_bind]
  exact Iff.rfl

@[simp]
theorem keeps_write {fits : History → Unit → Prop} {entry : Note} :
    Keeps allowed fits history (write entry) ↔ fits history () :=
  Iff.rfl

@[simp]
theorem keeps_tell {fits : History → Unit → Prop} {request : Request} :
    Keeps allowed fits history (tell request) ↔
      allowed history request ∧ ∀ answer, fits (.answered request answer :: history) () :=
  Iff.rfl

/-- What is later than a history is later than the one before its last exchange. -/
theorem Keeps.since_past {fits : History → α → Prop} {program : Program α} {exchange : Exchange}
    {start : History}
    (keeps : Keeps (fun later request => (exchange :: history) <:+ later ∧ allowed later request)
      (fun later value => (exchange :: history) <:+ later ∧ fits later value) start program) :
    Keeps (fun later request => history <:+ later ∧ allowed later request)
      (fun later value => history <:+ later ∧ fits later value) start program := by
  refine keeps.mono ?_ ?_
  · intro later request since
    exact ⟨(List.suffix_cons exchange history).trans since.1, since.2⟩
  · intro later value since
    exact ⟨(List.suffix_cons exchange history).trans since.1, since.2⟩

/-- All that a program asks, and its end, is later than where it starts. -/
theorem Keeps.since_start {fits : History → α → Prop} {program : Program α}
    (keeps : Keeps allowed fits history program) :
    Keeps (fun later request => history <:+ later ∧ allowed later request)
      (fun later value => history <:+ later ∧ fits later value) history program := by
  induction program generalizing history with
  | done value => exact ⟨List.suffix_refl _, keeps⟩
  | note entry rest ih => exact ih keeps
  | call request next ih =>
      rcases keeps with ⟨asked, answered⟩
      exact ⟨⟨List.suffix_refl _, asked⟩, fun answer => (ih answer (answered answer)).since_past⟩
  | timed request cut next cutIh nextIh =>
      rcases keeps with ⟨asked, struck, answered⟩
      exact ⟨⟨List.suffix_refl _, asked⟩, (cutIh struck).since_past,
        fun answer => (nextIh answer (answered answer)).since_past⟩

/-- Where a program starts from a history that follows the rule, it ends in such a history. -/
theorem Keeps.follows {fits : History → α → Prop} {program : Program α}
    (keeps : Keeps allowed fits history program) (follows : history.Follows allowed) :
    Keeps allowed (fun later value => later.Follows allowed ∧ fits later value) history
      program := by
  induction program generalizing history with
  | done value => exact ⟨follows, keeps⟩
  | note entry rest ih => exact ih keeps follows
  | call request next ih =>
      rcases keeps with ⟨asked, answered⟩
      exact ⟨asked, fun answer => ih answer (answered answer) ⟨asked, follows⟩⟩
  | timed request cut next cutIh nextIh =>
      rcases keeps with ⟨asked, struck, answered⟩
      exact ⟨asked, cutIh struck ⟨asked, follows⟩,
        fun answer => nextIh answer (answered answer) ⟨asked, follows⟩⟩

/-- Under a deadline a program makes the same requests, and the value for the deadline has to go
with every history that ends in a request which was cut. -/
theorem Keeps.limit {fits : History → α → Prop} {program : Program α} {late : α}
    (keeps : Keeps allowed fits history program)
    (struck : ∀ later request, history <:+ later → allowed later request →
      fits (.cut request :: later) late) :
    Keeps allowed fits history (limit late program) := by
  induction program generalizing history with
  | done value => exact keeps
  | note entry rest ih => exact ih keeps struck
  | call request next ih =>
      rcases keeps with ⟨asked, answered⟩
      refine ⟨asked, struck history request (List.suffix_refl _) asked, fun answer => ?_⟩
      exact ih answer (answered answer) fun later request suffix =>
        struck later request ((List.suffix_cons _ _).trans suffix)
  | timed request cut next cutIh nextIh =>
      rcases keeps with ⟨asked, _, answered⟩
      refine ⟨asked, struck history request (List.suffix_refl _) asked, fun answer => ?_⟩
      exact nextIh answer (answered answer) fun later request suffix =>
        struck later request ((List.suffix_cons _ _).trans suffix)

/-! ### Programs that may stop with an error -/

section Fallible

variable {fits : History → Except Error β → Prop}

@[simp]
theorem keeps_run_pure {value : β} :
    Keeps allowed fits history (pure value : Fallible β).run ↔ fits history (.ok value) :=
  Iff.rfl

@[simp]
theorem keeps_run_throw {error : Error} :
    Keeps allowed fits history (throw error : Fallible β).run ↔ fits history (.error error) :=
  Iff.rfl

/-- What follows a program that stops with an error is not run. -/
@[simp]
theorem keeps_run_bind {program : Fallible α} {after : α → Fallible β} :
    Keeps allowed fits history (program >>= after).run ↔
      Keeps allowed
        (fun history result =>
          match result with
          | .ok value => Keeps allowed fits history (after value).run
          | .error error => fits history (.error error))
        history program.run := by
  rw [ExceptT.run_bind, keeps_bind]
  refine iff_of_eq (congrArg (Keeps allowed · history program.run) (funext fun later => ?_))
  funext result
  cases result <;> rfl

@[simp]
theorem keeps_run_ask {request : Request}
    {fits : History → Except Error request.Answer → Prop} :
    Keeps allowed fits history (ask request).run ↔
      allowed history request ∧ ∀ answer, fits (.answered request answer :: history) answer :=
  Iff.rfl

@[simp]
theorem keeps_run_attempt {fits : History → Except Error (Except Error α) → Prop}
    {program : Fallible α} :
    Keeps allowed fits history (attempt program).run ↔
      Keeps allowed (fun history result => fits history (.ok result)) history program.run := by
  rw [attempt, ExceptT.run_lift, keeps_map]

@[simp]
theorem keeps_run_lift {program : Program β} :
    Keeps allowed fits history (liftM program : Fallible β).run ↔
      Keeps allowed (fun history value => fits history (.ok value)) history program := by
  change Keeps allowed fits history (ExceptT.lift program).run ↔ _
  rw [ExceptT.run_lift, keeps_map]

@[simp]
theorem keeps_run_result {result : Except Error β} :
    Keeps allowed fits history (liftM result : Fallible β).run ↔ fits history result := by
  cases result <;> exact Iff.rfl

end Fallible

/-! ### Programs that make requests of a kind only -/

/-- Whatever happened before, all requests of the program are of a kind. -/
def Only {α : Type} (kind : Request → Prop) (program : Program α) : Prop :=
  ∀ history, Keeps (fun _ => kind) (fun _ _ => True) history program

section Only

variable {kind : Request → Prop}

theorem only_pure {value : α} : Only kind (pure value) := fun _ => trivial

theorem only_run_pure {value : α} : Only kind (pure value : Fallible α).run := fun _ => trivial

theorem only_run_throw {error : Error} : Only kind (throw error : Fallible α).run :=
  fun _ => trivial

theorem only_run_result {result : Except Error α} : Only kind (liftM result : Fallible α).run := by
  intro history
  rw [keeps_run_result]
  trivial

theorem only_run_ask {request : Request} (ofKind : kind request) : Only kind (ask request).run :=
  fun _ => ⟨ofKind, fun _ => trivial⟩

theorem only_run_attempt {program : Fallible α} (only : Only kind program.run) :
    Only kind (attempt program).run :=
  fun history => keeps_run_attempt.mpr (only history)

theorem Only.bind {program : Program α} {after : α → Program β} (first : Only kind program)
    (second : ∀ value, Only kind (after value)) : Only kind (program >>= after) := by
  intro history
  rw [keeps_bind]
  exact (first history).mono (fun _ _ ofKind => ofKind) fun history value _ => second value history

theorem Only.run_bind {program : Fallible α} {after : α → Fallible β}
    (first : Only kind program.run) (second : ∀ value, Only kind (after value).run) :
    Only kind (program >>= after).run := by
  rw [ExceptT.run_bind]
  refine first.bind fun result => ?_
  cases result with
  | ok value => exact second value
  | error error => exact only_pure

theorem Only.limit {program : Program α} {late : α} (only : Only kind program) :
    Only kind (Program.limit late program) :=
  fun history => (only history).limit fun _ _ _ _ => trivial

end Only

end Program

end ClusterOperator
