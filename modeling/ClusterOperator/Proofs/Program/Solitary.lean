import ClusterOperator.Proofs.Program.History
import ClusterOperator.Proofs.Program.Perform
import ClusterOperator.Proofs.Run.Invariant

/-!
# Programs that nobody disturbs

In a solitary environment nobody but the program writes the store, but requests can still fail, with
their effect or without it, and deadlines can strike. Where a program succeeds only if each of its
requests was answered by the store without an error, a success comes about as in an environment in
which nothing ever fails.
-/

namespace ClusterOperator

/-- How a request is served where nobody else writes; there is nothing where it is late. -/
inductive Served : (request : Request) → Store → Option (Except Error request.Answer) → Store → Prop
  | answered {request : Request} {store later : Store} {answer : Except Error request.Answer}
      (answered : Answered request store answer later) : Served request store (some answer) later
  | failed {request : Request} {store later : Store} (error : Error)
      (attempted : Attempted request store later) :
      Served request store (some (.error error)) later
  | late {request : Request} {store later : Store} (attempted : Attempted request store later) :
      Served request store none later

/-- An environment with a store that only requests write. -/
structure Environment.Solitary {σ : Type} (environment : Environment σ) (view : σ → Store) :
    Prop where
  note : ∀ entry state, view (environment.note entry state) = view state
  call : ∀ request state, Served request (view state) (some (environment.call request state).1)
    (view (environment.call request state).2)
  timed : ∀ request state, Served request (view state) (environment.timed request state).1
    (view (environment.timed request state).2)

/-- A store that answers at once is a solitary environment. -/
theorem Store.solitary_alone (replies : Replies) :
    Environment.Solitary (Store.alone replies) id := by
  have replied (request : Request) (store : Store) :
      Answered request store (store.reply replies request).1 (store.reply replies request).2 := by
    cases request with
    | store request => exact .store request store
    | connect cluster => exact .connect cluster store _
    | server cluster request => exact .server cluster request store _
    | close cluster => exact .close cluster store _
  refine ⟨fun _ _ => rfl, fun request store => ?_, fun request store => ?_⟩
  · exact .answered (replied request store)
  · exact .answered (replied request store)

/-- The request was answered by the store, and without an error. -/
def Exchange.IsGranted (exchange : Exchange) : Prop :=
  ∃ request answer, exchange = .answered (.store request) (.ok answer)

/-- Every request was answered by the store, and without an error. -/
def History.Granted (history : History) : Prop := ∀ exchange ∈ history, exchange.IsGranted

theorem History.granted_nil : Granted [] := List.forall_mem_nil _

theorem History.granted_cons {exchange : Exchange} {history : History} :
    Granted (exchange :: history) ↔ exchange.IsGranted ∧ history.Granted :=
  List.forall_mem_cons

/-- An answer of the store is a grant. -/
theorem History.Granted.answered {history : History} (granted : history.Granted)
    (request : StoreRequest) (answer : request.Answer) :
    Granted (.answered (.store request) (.ok answer) :: history) :=
  granted_cons.mpr ⟨⟨request, answer, rfl⟩, granted⟩

namespace Program

variable {α β σ : Type} {allowed : History → Request → Prop} {history : History}

/-- A run ends in a value that goes with a history of it. -/
theorem Keeps.exists_end {fits : History → α → Prop} {program : Program α}
    (environment : Environment σ) (state : σ) (keeps : Keeps allowed fits history program) :
    ∃ later, history <:+ later ∧ fits later (program.run environment state).1 := by
  induction program generalizing history state with
  | done value => exact ⟨history, List.suffix_refl _, keeps⟩
  | note entry rest ih => exact ih _ keeps
  | call request next ih =>
      rcases ih _ (environment.call request state).2 (keeps.2 _) with ⟨later, suffix, fits⟩
      exact ⟨later, (List.suffix_cons _ _).trans suffix, fits⟩
  | timed request cut next cutIh nextIh =>
      rw [run]
      split
      · rcases cutIh _ keeps.2.1 with ⟨later, suffix, fits⟩
        exact ⟨later, (List.suffix_cons _ _).trans suffix, fits⟩
      · rcases nextIh _ _ (keeps.2.2 _) with ⟨later, suffix, fits⟩
        exact ⟨later, (List.suffix_cons _ _).trans suffix, fits⟩

theorem run_alone_call (replies : Replies) (request : Request)
    (next : Except Error request.Answer → Program α) (store : Store) :
    (call request next).run (Store.alone replies) store =
      (next (store.reply replies request).1).run (Store.alone replies)
        (store.reply replies request).2 :=
  rfl

theorem run_timed_of_late {environment : Environment σ} {state left : σ} {request : Request}
    {cut : Program α} {next : Except Error request.Answer → Program α}
    (taken : environment.timed request state = (none, left)) :
    (timed request cut next).run environment state = cut.run environment left := by
  rw [run, taken]

theorem run_timed_of_answer {environment : Environment σ} {state left : σ} {request : Request}
    {cut : Program α} {next : Except Error request.Answer → Program α}
    {answer : Except Error request.Answer}
    (taken : environment.timed request state = (some answer, left)) :
    (timed request cut next).run environment state = (next answer).run environment left := by
  rw [run, taken]

/-- A request that was granted was answered by the store as it is. -/
theorem reply_of_granted {request : Request} {answer : Except Error request.Answer}
    {store later : Store} (replies : Replies) (served : Served request store (some answer) later)
    (granted : (Exchange.answered request answer).IsGranted) :
    store.reply replies request = (answer, later) := by
  rcases granted with ⟨asked, value, same⟩
  cases same
  cases served with
  | answered answered => exact answered.store_eq.symm

/-- A request has its effect or none, and is answered by the store or fails. -/
theorem askStore_cases {environment : Environment σ} {view : σ → Store}
    (solitary : environment.Solitary view) (request : StoreRequest) (state : σ) :
    let reply := (askStore request).run.run environment state
    (view reply.2 = view state ∨ view reply.2 = ((view state).answer request).2) ∧
      ((∃ error, reply.1 = .error error) ∨ reply.1 = ((view state).answer request).1) := by
  intro reply
  have served : Served (.store request) (view state) (some reply.1) (view reply.2) :=
    solitary.call (.store request) state
  revert served
  generalize reply.1 = answer
  generalize view reply.2 = later
  intro served
  cases served with
  | answered answered =>
      cases answered with
      | store => exact ⟨.inr rfl, .inr rfl⟩
  | failed error attempted =>
      cases attempted with
      | done => exact ⟨.inr rfl, .inl ⟨error, rfl⟩⟩
      | undone => exact ⟨.inl rfl, .inl ⟨error, rfl⟩⟩

/-- Where a value is good only if all requests were granted, a program that comes to it comes to it
in an environment in which nothing fails. -/
theorem run_alone_of_granted {environment : Environment σ} {view : σ → Store} {program : Program α}
    {good : α → Prop} (solitary : environment.Solitary view) (replies : Replies) (state : σ)
    (keeps : Keeps allowed (fun later value => good value → later.Granted) history program)
    (isGood : good (program.run environment state).1) :
    program.run (Store.alone replies) (view state) =
      ((program.run environment state).1, view (program.run environment state).2) := by
  induction program generalizing history state with
  | done value => rfl
  | note entry rest ih =>
      have rest := ih (environment.note entry state) keeps isGood
      rw [solitary.note] at rest
      exact rest
  | call request next ih =>
      have after := keeps.2 (environment.call request state).1
      rcases after.exists_end environment (environment.call request state).2 with
        ⟨later, suffix, granted⟩
      have asked := granted isGood _ (suffix.subset (List.mem_cons_self ..))
      have replied := reply_of_granted replies (solitary.call request state) asked
      have rest := ih _ _ after isGood
      rw [run_alone_call, replied]
      exact rest
  | timed request cut next cutIh nextIh =>
      have served := solitary.timed request state
      cases taken : environment.timed request state with
      | mk answer left =>
          rw [taken] at served
          cases answer with
          | none =>
              rw [run_timed_of_late taken] at isGood
              rcases keeps.2.1.exists_end environment left with ⟨later, suffix, granted⟩
              have asked := granted isGood _ (suffix.subset (List.mem_cons_self ..))
              rcases asked with ⟨_, _, same⟩
              cases same
          | some answer =>
              rw [run_timed_of_answer taken] at isGood ⊢
              have after := keeps.2.2 answer
              rcases after.exists_end environment left with ⟨later, suffix, granted⟩
              have asked := granted isGood _ (suffix.subset (List.mem_cons_self ..))
              have replied := reply_of_granted replies served asked
              have isTimed : (Store.alone replies).timed request (view state) =
                  (some answer, view left) :=
                congrArg (fun reply : _ × Store => (some reply.1, reply.2)) replied
              rw [run_timed_of_answer isTimed]
              exact nextIh _ _ after isGood

/-! ### Programs that any error stops -/

/-- The program has a value only if all its requests were granted. -/
def Careful (program : Fallible α) : Prop :=
  ∀ history, history.Granted → Keeps (fun _ _ => True)
    (fun later result => ∀ value, result = .ok value → later.Granted) history program.run

theorem careful_pure {value : α} : Careful (pure value) :=
  fun _ granted => fun _ _ => granted

theorem careful_result {result : Except Error α} : Careful (liftM result) := by
  intro history granted
  rw [keeps_run_result]
  exact fun _ _ => granted

theorem careful_askStore (request : StoreRequest) : Careful (askStore request) := by
  intro history granted
  refine ⟨trivial, ?_⟩
  rintro answer value rfl
  exact granted.answered request value

theorem Careful.bind {program : Fallible α} {after : α → Fallible β} (first : Careful program)
    (second : ∀ value, Careful (after value)) : Careful (program >>= after) := by
  intro history granted
  refine keeps_run_bind.mpr ((first history granted).mono (fun _ _ any => any) ?_)
  intro later result granted
  cases result with
  | ok value => exact second value later (granted value rfl)
  | error error => exact nofun

/-- A deadline that strikes leaves no value. -/
theorem Careful.limit {program : Fallible α} (careful : Careful program) (late : Error) :
    Careful (ExceptT.mk (Program.limit (.error late) program.run)) :=
  fun history granted => (careful history granted).limit fun _ _ _ _ => nofun

end Program

end ClusterOperator
