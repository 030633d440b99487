import ClusterOperator.Proofs.Namespace.Requests
import ClusterOperator.Proofs.Program.Trace

/-!
# Conversations with servers

What a namespace pass can ask of servers: which calls there are, in which order, and where they
stop. `Namespace.Talk` describes the conversations for an object and the cluster that was read for
it, and the programs that talk with servers keep to the part of it that is theirs.
-/

namespace ClusterOperator

/-- Whether a request is for a server, or for the connection to one. -/
def Request.isRemote : Request → Bool
  | store _ => false
  | connect _ => true
  | server _ _ => true
  | close _ => true

/-- Whether a request is to change the attributes of a namespace. -/
def Request.changesAttributes : Request → Bool
  | server _ (.addAttributes _ _) => true
  | server _ (.removeAttributes _ _) => true
  | _ => false

/-- Whether a request is for a server, and has nothing to do with attributes. -/
def Request.isPlain : Request → Bool
  | connect _ => true
  | server _ (.register _) => true
  | server _ (.update _) => true
  | server _ (.delete _) => true
  | close _ => true
  | _ => false

theorem Request.changesAttributes_of_local {request : Request}
    (isLocal : request.isRemote = false) : request.changesAttributes = false := by
  cases request with
  | store request => rfl
  | connect cluster => rfl
  | server cluster request => cases isLocal
  | close cluster => rfl

theorem Request.of_isPlain {request : Request} (plain : request.isPlain) :
    request.isRemote ∧ request.changesAttributes = false := by
  cases request with
  | store request => cases plain
  | connect cluster => exact ⟨rfl, rfl⟩
  | server cluster request => cases request <;> first | exact ⟨rfl, rfl⟩ | cases plain
  | close cluster => exact ⟨rfl, rfl⟩

/-- What was asked of servers, among all that was asked. -/
def remoteCalls (calls : List Exchange) : List Exchange := calls.filter (·.request.isRemote)

/-- Requests that are made one after another, until one of them fails. -/
inductive Chain : List Request → List Exchange → Prop
  | done : Chain [] []
  | failed {request : Request} {rest : List Request} (error : Error) :
      Chain (request :: rest) [.answered request (.error error)]
  | went {request : Request} {rest : List Request} {calls : List Exchange}
      (answer : request.Answer) (later : Chain rest calls) :
      Chain (request :: rest) (.answered request (.ok answer) :: calls)

/-- A connection that is opened, used and closed, or cannot be opened. -/
inductive Session (cluster : Cluster) (use : List Exchange → Prop) : List Exchange → Prop
  | unconnected (error : Error) :
      Session cluster use [.answered (.connect cluster) (.error error)]
  | connected {calls : List Exchange} (closed : Except Error Unit) (used : use calls) :
      Session cluster use
        (.answered (.connect cluster) (.ok ()) :: calls ++ [.answered (.close cluster) closed])

/-- The requests that a plan comes to. -/
def AttributePlan.requests (plan : AttributePlan) (cluster : Cluster) (name : String) :
    List Request :=
  (if plan.removals ≠ [] then [.server cluster (.removeAttributes name plan.removals)] else []) ++
    if !plan.additions.isEmpty then [.server cluster (.addAttributes name plan.additions)] else []

/-- The attributes are listed, and changed as far as there is a plan for them. -/
inductive AttributeTalk (cluster : Cluster) (name : String) (spec : StringMap String) :
    List Exchange → Prop
  | unlisted (error : Error) :
      AttributeTalk cluster name spec
        [.answered (.server cluster (.listAttributes name)) (.error error)]
  | planless {present : StringMap AttributeType} {error : Error}
      (planless : AttributePlan.make spec present = .error error) :
      AttributeTalk cluster name spec
        [.answered (.server cluster (.listAttributes name)) (.ok present)]
  | planned {present : StringMap AttributeType} {plan : AttributePlan} {calls : List Exchange}
      (isPlan : AttributePlan.make spec present = .ok plan)
      (changed : Chain (plan.requests cluster name) calls) :
      AttributeTalk cluster name spec
        (.answered (.server cluster (.listAttributes name)) (.ok present) :: calls)

/-- The namespace is deleted. -/
def DeletionTalk (cluster : Cluster) (name : String) (calls : List Exchange) : Prop :=
  ∃ answer, calls = [.answered (.server cluster (.delete name)) answer]

/-- The server accepts a namespace, as a new one or as an update. -/
inductive Accepts (cluster : Cluster) (request : NamespaceRequest) : List Exchange → Prop
  | registered : Accepts cluster request [.answered (.server cluster (.register request)) (.ok ())]
  | updated {error : Error} (known : error.isAlreadyExists) :
      Accepts cluster request
        [.answered (.server cluster (.register request)) (.error error),
          .answered (.server cluster (.update request)) (.ok ())]

/-- The namespace is registered, or updated where it is there already, and its attributes follow. -/
inductive RegistrationTalk (cluster : Cluster) (request : NamespaceRequest)
    (spec : StringMap String) : List Exchange → Prop
  | refused {error : Error} (other : error.isAlreadyExists = false) :
      RegistrationTalk cluster request spec
        [.answered (.server cluster (.register request)) (.error error)]
  | registered {calls : List Exchange}
      (attributes : AttributeTalk cluster request.name spec calls) :
      RegistrationTalk cluster request spec
        (.answered (.server cluster (.register request)) (.ok ()) :: calls)
  | outdated {error : Error} (known : error.isAlreadyExists) (failure : Error) :
      RegistrationTalk cluster request spec
        [.answered (.server cluster (.register request)) (.error error),
          .answered (.server cluster (.update request)) (.error failure)]
  | updated {error : Error} {calls : List Exchange} (known : error.isAlreadyExists)
      (attributes : AttributeTalk cluster request.name spec calls) :
      RegistrationTalk cluster request spec
        (.answered (.server cluster (.register request)) (.error error) ::
          .answered (.server cluster (.update request)) (.ok ()) :: calls)

namespace Namespace

/-- What a pass asks of servers, once it has read its object and the cluster of that. -/
inductive Talk (held : Namespace) : Option Cluster → List Exchange → Prop
  | absent : Talk held none []
  | unready {cluster : Cluster} (unready : cluster.isReady = false) : Talk held (some cluster) []
  | leaving {cluster : Cluster} (ready : cluster.isReady) (deleting : held.metadata.isDeleting)
      (bare : held.hasFinalizer = false) : Talk held (some cluster) []
  | deletion {cluster : Cluster} {calls : List Exchange} (ready : cluster.isReady)
      (deleting : held.metadata.isDeleting) (finalizer : held.hasFinalizer)
      (talk : Deadlined (Session cluster (DeletionTalk cluster held.name)) calls) :
      Talk held (some cluster) calls
  | registration {cluster : Cluster} {calls : List Exchange} (ready : cluster.isReady)
      (alive : held.metadata.isDeleting = false)
      (talk : Deadlined
        (Session cluster (RegistrationTalk cluster (.of cluster held) held.spec.searchAttributes))
        calls) :
      Talk held (some cluster) calls

end Namespace

namespace Program

variable {cluster : Cluster} {calls : List Exchange}

/-- A program comes to a value, or to the error of one of its calls. -/
def EndsIn {α : Type} (value : α) (calls : List Exchange) (result : Except Error α) : Prop :=
  result = .ok value ∨
    ∃ request error, .answered request (.error error) ∈ calls ∧ result = .error error

/-- A request that is made only where it is wanted, and then the rest of a chain. -/
theorem chain_of_optional {β : Type} {value : β} {wanted : Prop} [Decidable wanted]
    {request : Request} {requests : List Request} {after : Fallible β} {result : Except Error β}
    (trace : Trace (if wanted then ask request >>= fun _ => after else after).run calls result)
    (follows : ∀ later, Trace after.run later result →
      Chain requests later ∧ EndsIn value later result) :
    Chain ((if wanted then [request] else []) ++ requests) calls ∧ EndsIn value calls result := by
  split at trace
  · rw [if_pos ‹wanted›]
    rcases trace_run_bind.mp trace with ⟨_, later, answer, rfl, asked, rest⟩ | ⟨error, asked, rfl⟩
    · rcases follows later rest with ⟨chain, ends⟩
      rw [trace_run_ask.mp asked]
      refine ⟨.went answer chain, ends.imp id ?_⟩
      rintro ⟨request, error, there, isError⟩
      exact ⟨request, error, List.mem_cons_of_mem _ there, isError⟩
    · rw [trace_run_ask.mp asked]
      exact ⟨.failed error, .inr ⟨request, error, List.mem_cons_self .., rfl⟩⟩
  · rw [if_neg ‹¬wanted›]
    exact follows calls trace

/-- The attributes are listed first. Then there is no plan and the pass stops, or there is one and
its requests are made. -/
theorem trace_convergeAttributes {name : String} {spec : StringMap String}
    {result : Except Error AttributePlan}
    (trace : Trace (convergeAttributes cluster name spec).run calls result) :
    (∃ error, calls = [.answered (.server cluster (.listAttributes name)) (.error error)] ∧
      result = .error error) ∨
    ∃ present changes,
      calls = .answered (.server cluster (.listAttributes name)) (.ok present) :: changes ∧
      ((∃ error, AttributePlan.make spec present = .error error ∧ changes = [] ∧
          result = .error error) ∨
        ∃ plan, AttributePlan.make spec present = .ok plan ∧
          Chain (plan.requests cluster name) changes ∧ EndsIn plan changes result) := by
  dsimp only [convergeAttributes] at trace
  rcases trace_run_bind.mp trace with ⟨_, after, present, rfl, listed, rest⟩ | ⟨error, listed, rfl⟩
  · rw [trace_run_ask.mp listed]
    refine .inr ⟨present, after, rfl, ?_⟩
    rcases trace_run_bind.mp rest with ⟨_, _, plan, rfl, planned, changes⟩ | ⟨error, failed, rfl⟩
    · rcases trace_run_result.mp planned with ⟨rfl, isPlan⟩
      refine .inr ⟨plan, isPlan.symm, chain_of_optional changes fun later additions => ?_⟩
      rw [← List.append_nil (ite _ _ _)]
      refine chain_of_optional additions fun later ended => ?_
      rcases trace_pure.mp ended with ⟨rfl, rfl⟩
      exact ⟨.done, .inl rfl⟩
    · rcases trace_run_result.mp failed with ⟨rfl, planless⟩
      exact .inl ⟨error, planless.symm, rfl, rfl⟩
  · rw [trace_run_ask.mp listed]
    exact .inl ⟨error, rfl, rfl⟩

theorem attributeTalk_of_trace {name : String} {spec : StringMap String}
    {result : Except Error AttributePlan}
    (trace : Trace (convergeAttributes cluster name spec).run calls result) :
    AttributeTalk cluster name spec calls := by
  rcases trace_convergeAttributes trace with ⟨error, rfl, _⟩ | ⟨present, changes, rfl, follows⟩
  · exact .unlisted error
  · rcases follows with ⟨error, planless, rfl, _⟩ | ⟨plan, isPlan, chain, _⟩
    · exact .planless planless
    · exact .planned isPlan chain

/-- The ways through a registration: it is refused, also as an update, or accepted, and then the
attributes follow. -/
theorem trace_register {ns : Namespace} {result : Except Error Unit}
    (trace : Trace (register cluster ns).run calls result) :
    (∃ error, error.isAlreadyExists = false ∧ result = .error error ∧
      calls = [.answered (.server cluster (.register (.of cluster ns))) (.error error)]) ∨
    (∃ error failure, error.isAlreadyExists ∧ result = .error failure ∧
      calls = [.answered (.server cluster (.register (.of cluster ns))) (.error error),
        .answered (.server cluster (.update (.of cluster ns))) (.error failure)]) ∨
    ∃ front later made, calls = front ++ later ∧ Accepts cluster (.of cluster ns) front ∧
      Trace (convergeAttributes cluster ns.name ns.spec.searchAttributes).run later made ∧
      result = made.map fun _ => () := by
  have attributes {later : List Exchange}
      (trace : Trace (discard <| convergeAttributes cluster (NamespaceRequest.of cluster ns).name
        ns.spec.searchAttributes : Fallible Unit).run later result) :
      ∃ made, Trace (convergeAttributes cluster ns.name ns.spec.searchAttributes).run later made ∧
        result = made.map fun _ => () := by
    rcases trace_run_bind.mp trace with ⟨front, _, plan, rfl, first, ended⟩ | ⟨error, first, rfl⟩
    · rcases trace_pure.mp ended with ⟨rfl, rfl⟩
      rw [List.append_nil]
      exact ⟨.ok plan, first, rfl⟩
    · exact ⟨.error error, first, rfl⟩
  dsimp only [register] at trace
  rcases trace_run_bind.mp trace with ⟨_, after, answer, rfl, asked, rest⟩ | ⟨error, asked, _⟩
  · rcases trace_run_attempt.mp asked with ⟨_, asked, ⟨⟩⟩
    rw [trace_run_ask.mp asked]
    cases answer with
    | ok registered =>
        rcases attributes rest with ⟨made, goes, isResult⟩
        exact .inr (.inr ⟨_, after, made, rfl, .registered, goes, isResult⟩)
    | error error =>
        dsimp only at rest
        split at rest
        · rename_i known
          rcases trace_run_bind.mp rest with ⟨_, later, _, rfl, asked, rest⟩ | ⟨failure, asked, rfl⟩
          · rw [trace_run_ask.mp asked]
            rcases attributes rest with ⟨made, goes, isResult⟩
            exact .inr (.inr ⟨_, later, made, rfl, .updated known, goes, isResult⟩)
          · rw [trace_run_ask.mp asked]
            exact .inr (.inl ⟨error, failure, known, rfl, rfl⟩)
        · rcases trace_run_bind.mp rest with ⟨_, _, _, _, ⟨_, ⟨⟩⟩, _⟩ | ⟨_, ⟨rfl, ⟨⟩⟩, rfl⟩
          exact .inl ⟨error, eq_false_of_ne_true ‹_›, rfl, rfl⟩
  · rcases trace_run_attempt.mp asked with ⟨_, _, ⟨⟩⟩

theorem registrationTalk_of_trace {ns : Namespace} {result : Except Error Unit}
    (trace : Trace (register cluster ns).run calls result) :
    RegistrationTalk cluster (.of cluster ns) ns.spec.searchAttributes calls := by
  rcases trace_register trace with ⟨error, other, _, rfl⟩ | ⟨error, failure, known, _, rfl⟩ |
    ⟨front, later, made, rfl, accepts, goes, _⟩
  · exact .refused other
  · exact .outdated known failure
  · cases accepts with
    | registered => exact .registered (attributeTalk_of_trace goes)
    | updated known => exact .updated known (attributeTalk_of_trace goes)

/-- A connection is closed after its use, whatever comes of that. -/
theorem trace_withConnection {α : Type} {use : Fallible α} {result : Except Error α}
    (trace : Trace (withConnection cluster use).run calls result) :
    (∃ error, calls = [.answered (.connect cluster) (.error error)] ∧ result = .error error) ∨
    ∃ used closed, Trace use.run used result ∧
      calls = .answered (.connect cluster) (.ok ()) :: used ++
        [.answered (.close cluster) closed] := by
  dsimp only [withConnection] at trace
  rcases trace_run_bind.mp trace with ⟨_, after, _, rfl, asked, rest⟩ | ⟨error, asked, rfl⟩
  · rw [trace_run_ask.mp asked]
    rcases trace_run_bind.mp rest with ⟨used, _, _, rfl, first, rest⟩ | ⟨error, first, _⟩
    · rcases trace_run_attempt.mp first with ⟨_, first, ⟨⟩⟩
      rcases trace_run_bind.mp rest with ⟨_, _, _, rfl, second, last⟩ | ⟨error, second, _⟩
      · rcases trace_run_lift.mp second with ⟨_, ⟨closed, _, rfl, rfl, _⟩, _⟩
        rcases trace_run_result.mp last with ⟨rfl, rfl⟩
        exact .inr ⟨used, closed, first, rfl⟩
      · rcases trace_run_lift.mp second with ⟨_, _, ⟨⟩⟩
    · rcases trace_run_attempt.mp first with ⟨_, _, ⟨⟩⟩
  · rw [trace_run_ask.mp asked]
    exact .inl ⟨error, rfl, rfl⟩

theorem session_of_trace {α : Type} {use : Fallible α} {talk : List Exchange → Prop}
    {result : Except Error α} (trace : Trace (withConnection cluster use).run calls result)
    (used : ∀ calls result, Trace use.run calls result → talk calls) :
    Session cluster talk calls := by
  rcases trace_withConnection trace with ⟨error, rfl, _⟩ | ⟨calls, closed, goes, rfl⟩
  · exact .unconnected error
  · exact .connected closed (used _ _ goes)

theorem deletionTalk_of_trace {ns : Namespace} {result : Except Error Unit}
    (trace : Trace (deleteRemote cluster ns).run calls result) :
    Session cluster (DeletionTalk cluster ns.name) calls := by
  have session {later : List Exchange} {result : Except Error (Except Error Unit)}
      (trace : Trace (withConnection cluster
        (attempt (askServer cluster (.delete ns.name)))).run later result) :
      Session cluster (DeletionTalk cluster ns.name) later := by
    refine session_of_trace trace fun calls result trace => ?_
    rcases trace_run_attempt.mp trace with ⟨answer, asked, _⟩
    exact ⟨answer, trace_run_ask.mp asked⟩
  dsimp only [deleteRemote] at trace
  rcases trace_run_bind.mp trace with ⟨front, back, answer, rfl, first, rest⟩ | ⟨error, first, _⟩
  · have ended : back = [] := by
      cases answer with
      | ok deleted => exact (trace_pure.mp rest).1
      | error error =>
          dsimp only at rest
          split at rest <;> exact (trace_pure.mp rest).1
    rw [ended, List.append_nil]
    exact session first
  · exact session first

/-- The finalizer is no part of what is registered. -/
theorem registrationTalk_of_aligned {ns : Namespace} {result : Except Error Unit}
    (trace : Trace (register cluster ns.alignFinalizer).run calls result) :
    RegistrationTalk cluster (.of cluster ns) ns.spec.searchAttributes calls := by
  have talk := registrationTalk_of_trace trace
  rcases ns.frame_alignFinalizer with ⟨spec, _, request⟩
  rw [spec, request] at talk
  exact talk

end Program

/-! ### What is in a conversation -/

section Members

variable {cluster : Cluster} {calls : List Exchange} {exchange : Exchange}

theorem Chain.request_mem {requests : List Request} (chain : Chain requests calls)
    (there : exchange ∈ calls) : exchange.request ∈ requests := by
  induction chain with
  | done => cases there
  | failed error =>
      rw [List.mem_singleton.mp there]
      exact List.mem_cons_self ..
  | went answer later ih =>
      rcases List.mem_cons.mp there with rfl | there
      · exact List.mem_cons_self ..
      · exact List.mem_cons_of_mem _ (ih there)

theorem AttributePlan.request_cases {plan : AttributePlan} {name : String} {request : Request}
    (there : request ∈ plan.requests cluster name) :
    request = .server cluster (.removeAttributes name plan.removals) ∨
      request = .server cluster (.addAttributes name plan.additions) := by
  rcases List.mem_append.mp there with there | there
  · split at there
    · exact .inl (List.mem_singleton.mp there)
    · cases there
  · split at there
    · exact .inr (List.mem_singleton.mp there)
    · cases there

/-- A plan comes to changes of attributes, on the server that it was made for. -/
theorem AttributePlan.mem_requests {plan : AttributePlan} {name : String} {request : Request}
    (there : request ∈ plan.requests cluster name) :
    request.changesAttributes ∧ request.isRemote := by
  rcases request_cases there with rfl | rfl
  · exact ⟨rfl, rfl⟩
  · exact ⟨rfl, rfl⟩

theorem AttributeTalk.isRemote {name : String} {spec : StringMap String}
    (talk : AttributeTalk cluster name spec calls) (there : exchange ∈ calls) :
    exchange.request.isRemote := by
  cases talk with
  | unlisted error =>
      rw [List.mem_singleton.mp there]
      rfl
  | planless planless =>
      rw [List.mem_singleton.mp there]
      rfl
  | planned isPlan changed =>
      rcases List.mem_cons.mp there with rfl | there
      · rfl
      · exact (AttributePlan.mem_requests (changed.request_mem there)).2

/-- Without a plan there are no changes. -/
theorem AttributeTalk.unchanged {name : String} {spec : StringMap String}
    {present : StringMap AttributeType} {error : Error} {server : Cluster}
    (talk : AttributeTalk cluster name spec calls)
    (listed : .answered (.server server (.listAttributes name)) (.ok present) ∈ calls)
    (planless : AttributePlan.make spec present = .error error) (there : exchange ∈ calls) :
    exchange.request.changesAttributes = false := by
  cases talk with
  | unlisted failure =>
      rw [List.mem_singleton.mp there]
      rfl
  | planless other =>
      rw [List.mem_singleton.mp there]
      rfl
  | planned isPlan changed =>
      rcases List.mem_cons.mp listed with same | listed
      · cases same
        rw [planless] at isPlan
        cases isPlan
      · cases (AttributePlan.mem_requests (changed.request_mem listed)).1

/-- What is asked for the attributes of a namespace, which may be nothing. -/
def AttributeCalls (name : String) (spec : StringMap String) (calls : List Exchange) : Prop :=
  calls = [] ∨ ∃ cluster, AttributeTalk cluster name spec calls

/-- All that is asked is plain, but for some calls; of these the last one may have been cut. -/
structure PlainBut (rest calls : List Exchange) : Prop where
  answered : ∀ request answer, .answered request answer ∈ calls →
    request.isPlain ∨ .answered request answer ∈ rest
  asked : ∀ exchange ∈ calls,
    exchange.request.isPlain ∨ ∃ full ∈ rest, full.request = exchange.request

theorem plainBut_nil : PlainBut [] [] := ⟨by simp, by simp⟩

variable {name : String} {spec : StringMap String}

/-- Registering is followed by the attributes, or by nothing. -/
theorem RegistrationTalk.plain_or_mem {request : NamespaceRequest}
    (talk : RegistrationTalk cluster request spec calls) :
    ∃ rest, AttributeCalls request.name spec rest ∧
      ∀ exchange ∈ calls, exchange.request.isPlain ∨ exchange ∈ rest := by
  cases talk with
  | refused other => exact ⟨[], .inl rfl, by simp [Request.isPlain]⟩
  | registered attributes =>
      refine ⟨_, .inr ⟨cluster, attributes⟩, ?_⟩
      rintro exchange (_ | ⟨_, there⟩)
      · exact .inl rfl
      · exact .inr there
  | outdated known failure => exact ⟨[], .inl rfl, by simp [Request.isPlain]⟩
  | updated known attributes =>
      refine ⟨_, .inr ⟨cluster, attributes⟩, ?_⟩
      rintro exchange (_ | ⟨_, _ | ⟨_, there⟩⟩)
      · exact .inl rfl
      · exact .inl rfl
      · exact .inr there

theorem Session.plain_or_mem {use : List Exchange → Prop} (session : Session cluster use calls)
    (used : ∀ used, use used → ∃ rest, AttributeCalls name spec rest ∧
      ∀ exchange ∈ used, exchange.request.isPlain ∨ exchange ∈ rest) :
    ∃ rest, AttributeCalls name spec rest ∧
      ∀ exchange ∈ calls, exchange.request.isPlain ∨ exchange ∈ rest := by
  cases session with
  | unconnected error => exact ⟨[], .inl rfl, by simp [Request.isPlain]⟩
  | connected closed uses =>
      rcases used _ uses with ⟨rest, attributes, cases⟩
      refine ⟨rest, attributes, ?_⟩
      rintro exchange (_ | ⟨_, there⟩)
      · exact .inl rfl
      rcases List.mem_append.mp there with there | there
      · exact cases exchange there
      · rw [List.mem_singleton.mp there]
        exact .inl rfl

theorem Deadlined.plainBut {use : List Exchange → Prop}
    (talk : Deadlined (Session cluster use) calls)
    (used : ∀ used, use used → ∃ rest, AttributeCalls name spec rest ∧
      ∀ exchange ∈ used, exchange.request.isPlain ∨ exchange ∈ rest) :
    ∃ rest, AttributeCalls name spec rest ∧ PlainBut rest calls := by
  rcases talk.exists_whole with ⟨whole, session, answered, asked⟩
  rcases session.plain_or_mem used with ⟨rest, attributes, cases⟩
  refine ⟨rest, attributes, fun _ _ there => cases _ (answered _ _ there), ?_⟩
  intro exchange there
  rcases asked exchange there with ⟨full, among, same⟩
  rcases cases full among with plain | among
  · exact .inl (same ▸ plain)
  · exact .inr ⟨full, among, same⟩

namespace Namespace

variable {held : Namespace} {found : Option Cluster}

/-- Servers are asked nothing but what is plain, and for the attributes. -/
theorem Talk.plainBut (talk : held.Talk found calls) :
    ∃ rest, AttributeCalls held.name held.spec.searchAttributes rest ∧ PlainBut rest calls := by
  cases talk with
  | absent => exact ⟨[], .inl rfl, plainBut_nil⟩
  | unready => exact ⟨[], .inl rfl, plainBut_nil⟩
  | leaving => exact ⟨[], .inl rfl, plainBut_nil⟩
  | deletion ready deleting finalizer talk =>
      refine talk.plainBut ?_
      rintro _ ⟨answer, rfl⟩
      exact ⟨[], .inl rfl, by simp [Request.isPlain]⟩
  | registration ready alive talk => exact talk.plainBut fun _ talk => talk.plain_or_mem

theorem Talk.isRemote (talk : held.Talk found calls) (there : exchange ∈ calls) :
    exchange.request.isRemote := by
  rcases talk.plainBut with ⟨rest, attributes, plainBut⟩
  rcases plainBut.asked exchange there with plain | ⟨full, among, same⟩
  · exact (Request.of_isPlain plain).1
  rcases attributes with rfl | ⟨cluster, attributes⟩
  · cases among
  · rw [← same]
    exact attributes.isRemote among

/-- Where the attributes that a server has and those of the spec give no plan, none is changed. -/
theorem Talk.unchanged {server : Cluster} {present : StringMap AttributeType} {error : Error}
    (talk : held.Talk found calls)
    (listed : .answered (.server server (.listAttributes held.name)) (.ok present) ∈ calls)
    (planless : AttributePlan.make held.spec.searchAttributes present = .error error)
    (there : exchange ∈ calls) : exchange.request.changesAttributes = false := by
  rcases talk.plainBut with ⟨rest, attributes, plainBut⟩
  rcases plainBut.asked exchange there with plain | ⟨full, among, same⟩
  · exact (Request.of_isPlain plain).2
  rcases attributes with rfl | ⟨cluster, attributes⟩
  · cases among
  have listed := (plainBut.answered _ _ listed).resolve_left (by simp [Request.isPlain])
  rw [← same]
  exact attributes.unchanged listed planless among

end Namespace

end Members

end ClusterOperator
