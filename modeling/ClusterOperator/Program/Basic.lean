import ClusterOperator.Program.Request

/-!
# Programs

A pass is a program: a tree of requests, each with what is done next for every answer that it can
get. The tree says nothing about who answers, so the same pass runs against a store in memory and
against an API server, and other writers can do whatever they like between two requests.

A request can be under a deadline. The tree then also says what is done when the deadline strikes
before there is an answer; whatever was asked may or may not have happened.
-/

namespace ClusterOperator

/-- What a pass writes down about its object for the operator itself. -/
inductive Note where
  /-- A namespace exists and names a cluster. -/
  | listed (ns : Namespace)
  /-- A namespace does not exist. -/
  | unlisted (key : ObjectKey)
  /-- Earlier failures of an object no longer count. -/
  | settled (key : String)

/-- A tree of requests that ends in a value. -/
inductive Program (α : Type) where
  | done (value : α)
  | note (entry : Note) (rest : Program α)
  | call (request : Request) (next : Except Error request.Answer → Program α)
  /-- A request under a deadline; when that strikes, the program goes on with `cut`. -/
  | timed (request : Request) (cut : Program α) (next : Except Error request.Answer → Program α)

namespace Program

variable {α β γ : Type}

/-- Runs a program and then another one on its value. -/
def bind (program : Program α) (after : α → Program β) : Program β :=
  match program with
  | done value => after value
  | note entry rest => note entry (rest.bind after)
  | call request next => call request fun answer => (next answer).bind after
  | timed request cut next => timed request (cut.bind after) fun answer => (next answer).bind after

instance : Monad Program where
  pure := done
  bind := bind

theorem bind_done (program : Program α) : program.bind done = program := by
  induction program with
  | done value => rfl
  | note entry rest ih => simp only [bind, ih]
  | call request next ih => simp only [bind, ih]
  | timed request cut next cutIh nextIh => simp only [bind, cutIh, nextIh]

theorem bind_assoc (program : Program α) (first : α → Program β) (second : β → Program γ) :
    (program.bind first).bind second = program.bind fun value => (first value).bind second := by
  induction program with
  | done value => rfl
  | note entry rest ih => simp only [bind, ih]
  | call request next ih => simp only [bind, ih]
  | timed request cut next cutIh nextIh => simp only [bind, cutIh, nextIh]

instance : LawfulMonad Program :=
  LawfulMonad.mk' Program bind_done (fun _ _ => rfl) bind_assoc

/-- A program that may stop with an error. -/
abbrev Fallible (α : Type) := ExceptT Error Program α

/-- Runs a program to its end and gives what came of it, so that an error does not stop what
follows. -/
def attempt (program : Fallible α) : Fallible (Except Error α) := ExceptT.lift program.run

/-- Makes a request; an error in place of an answer stops the program. -/
def ask (request : Request) : Fallible request.Answer := ExceptT.mk (call request done)

/-- Makes a request to the store. -/
def askStore (request : StoreRequest) : Fallible request.Answer := ask (.store request)

/-- Makes a request to the server of a cluster. -/
def askServer (cluster : Cluster) (request : ServerRequest) : Fallible request.Answer :=
  ask (.server cluster request)

/-- Makes a request whose answer does not matter. -/
def tell (request : Request) : Program Unit := call request fun _ => done ()

/-- Writes something down. -/
def write (entry : Note) : Program Unit := note entry (done ())

/-- Puts all requests of a program under a deadline; where it strikes, the program ends with the
given value. A deadline within a deadline gives way to the outer one. -/
def limit (cut : α) : Program α → Program α
  | done value => done value
  | note entry rest => note entry (limit cut rest)
  | call request next => timed request (done cut) fun answer => limit cut (next answer)
  | timed request _ next => timed request (done cut) fun answer => limit cut (next answer)

end Program

end ClusterOperator
