import ClusterOperator.Proofs.Attribute.Plan
import ClusterOperator.Proofs.Namespace.Talk
import ClusterOperator.Proofs.Run.Schedule
import ClusterOperator.Simulation.Server

/-!
# Passes over attributes, again and again

A pass over the attributes of a namespace can fail at any of its calls, and the call that failed may
still have changed the server. The passes after it start from what it left behind.

Whatever passes have come before, a name that the server has is one that it had from the start with
this type, or one of the spec with the type of the spec: so a spec that agrees with the server once
agrees with it ever after, and no pass finds a clash in what an earlier one has left behind.
-/

namespace ClusterOperator

namespace Server

/-- What a call to a server comes to, with the server after it. A call that fails has all of its
effect or none. -/
inductive Serves (server : Server) : Exchange → Server → Prop
  | answered (cluster : Cluster) (request : ServerRequest) :
      Serves server (.answered (.server cluster request) (server.answer request).1)
        (server.answer request).2
  | refused (cluster : Cluster) (request : ServerRequest) (error : Error) :
      Serves server (.answered (.server cluster request) (.error error)) server
  | unheard (cluster : Cluster) (request : ServerRequest) (error : Error) :
      Serves server (.answered (.server cluster request) (.error error)) (server.answer request).2

/-- What calls come to, one after the other, where nobody else changes the server. -/
inductive ServesAll : Server → List Exchange → Server → Prop
  | nil (server : Server) : ServesAll server [] server
  | cons {server middle later : Server} {exchange : Exchange} {rest : List Exchange}
      (first : server.Serves exchange middle) (others : ServesAll middle rest later) :
      ServesAll server (exchange :: rest) later

/-- A pass over the attributes of a namespace, with what it asks, what comes of it, and the server
after it. -/
structure Round (name : String) (spec : StringMap String) (server : Server) (calls : List Exchange)
    (result : Except Error AttributePlan) (later : Server) : Prop where
  trace : ∃ cluster, Program.Trace (Program.convergeAttributes cluster name spec).run calls result
  served : server.ServesAll calls later

/-- Any number of passes over the attributes of a namespace, however they end. -/
inductive Rounds (name : String) (spec : StringMap String) (server : Server) : Server → Prop
  | none : Rounds name spec server server
  | one {middle later : Server} {calls : List Exchange} {result : Except Error AttributePlan}
      (earlier : Rounds name spec server middle)
      (round : Round name spec middle calls result later) :
      Rounds name spec server later

/-! ### What servers make of calls -/

section Calls

variable {server later : Server} {cluster : Cluster} {name : String}
  {present : StringMap AttributeType}

theorem answer_listAttributes (registered : server.get? name = some present) :
    server.answer (.listAttributes name) = (.ok present, server) := by
  simp [answer, withTarget, ServerRequest.target, registered]

theorem answer_removeAttributes (registered : server.get? name = some present)
    (removed : List String) :
    server.answer (.removeAttributes name removed) =
      (.ok (), server.insert name (present.filter fun held _ => held ∉ removed)) := by
  simp [answer, withTarget, ServerRequest.target, registered]

theorem answer_addAttributes (registered : server.get? name = some present)
    (added : StringMap AttributeType) :
    server.answer (.addAttributes name added) =
      (.ok (), server.insert name (present.overlay added)) := by
  simp [answer, withTarget, ServerRequest.target, registered]

theorem Serves.of_ok {request : ServerRequest} {answer : request.Answer}
    (serves : server.Serves (.answered (.server cluster request) (.ok answer)) later) :
    server.answer request = (.ok answer, later) := by
  generalize isIt : Exchange.answered (.server cluster request) (.ok answer) = exchange at serves
  cases serves with
  | answered other asked =>
      injection isIt with asks answers
      cases asks
      exact Prod.ext (eq_of_heq answers).symm rfl
  | refused other asked error => cases isIt
  | unheard other asked error => cases isIt

theorem Serves.of_error {request : ServerRequest} {error : Error}
    (serves : server.Serves (.answered (.server cluster request) (.error error)) later) :
    later = server ∨ later = (server.answer request).2 := by
  generalize isIt : Exchange.answered (.server cluster request) (.error error) = exchange at serves
  cases serves with
  | answered other asked =>
      injection isIt with asks
      cases asks
      exact .inr rfl
  | refused other asked failure => exact .inl rfl
  | unheard other asked failure =>
      cases isIt
      exact .inr rfl

end Calls

end Server

namespace AttributePlan

/-- What there is of the attributes once none, some or all requests of a plan had their effect. -/
def Partly (plan : AttributePlan) (present now : StringMap AttributeType) : Prop :=
  now = present ∨ now = (present.filter fun held _ => held ∉ plan.removals) ∨
    now = plan.applied present

/-- What passes have made of the attributes that a server had at the start. -/
structure Underway (wanted start now : StringMap AttributeType) : Prop where
  origin : ∀ key type, now.get? key = some type →
    start.get? key = some type ∨ wanted.get? key = some type
  kept : ∀ key type, start.get? key = some type → wanted.get? key = some type →
    now.get? key = some type

variable {spec : StringMap String} {wanted start present now : StringMap AttributeType}

theorem underway_start : Underway wanted start start where
  origin _ _ there := .inl there
  kept _ _ there _ := there

theorem Underway.filter (underway : Underway wanted start present) :
    Underway wanted start
      (present.filter fun held _ => held ∉ (between wanted present).removals) := by
  constructor
  · intro key type there
    simp only [SortedMap.get?_filter, Option.filter_eq_some_iff] at there
    exact underway.origin key type there.1
  · intro key type atStart isWanted
    have stays := underway.kept key type atStart isWanted
    simp [SortedMap.get?_filter, stays, mem_removals, SortedMap.contains, isWanted]

theorem Underway.partly (underway : Underway wanted start present)
    (partly : (between wanted present).Partly present now) : Underway wanted start now := by
  rcases partly with rfl | rfl | rfl
  · exact underway
  · exact underway.filter
  · have filtered := underway.filter
    constructor
    · intro key type there
      rw [applied, SortedMap.get?_overlay, Option.or_eq_some_iff] at there
      rcases there with added | ⟨_, there⟩
      · rw [get?_additions] at added
        split at added
        · cases added
        · exact .inr added
      · exact filtered.origin key type there
    · intro key type atStart isWanted
      have held := underway.kept key type atStart isWanted
      have unadded : (between wanted present).additions.get? key = none := by
        simp [get?_additions, SortedMap.contains, held]
      rw [applied, SortedMap.get?_overlay, unadded, Option.none_or]
      exact filtered.kept key type atStart isWanted

/-- A spec that agrees with what a server had agrees with what passes have made of it. -/
theorem Underway.agrees (underway : Underway wanted start now)
    (named : namedTypes spec = .ok wanted) (agrees : Agrees spec start) : Agrees spec now := by
  refine ⟨agrees.supported, ?_⟩
  intro key type held isDeclared isHeld
  rcases underway.origin key held isHeld with atStart | isWanted
  · exact agrees.compatible key type held isDeclared atStart
  · rw [get?_namedTypes named, isDeclared] at isWanted
    exact (Option.some_inj.mp isWanted).symm

end AttributePlan

/-- All calls were answered, and none with an error. -/
def AllOk (calls : List Exchange) : Prop :=
  ∀ exchange ∈ calls, ∃ request answer, exchange = .answered request (.ok answer)

theorem AllOk.not_mem {calls : List Exchange} (allOk : AllOk calls) {request : Request}
    {error : Error} : .answered request (.error error) ∉ calls := by
  intro there
  rcases allOk _ there with ⟨other, answer, same⟩
  injection same with asks answers
  cases asks
  cases eq_of_heq answers

namespace Server

variable {server later : Server} {cluster : Cluster} {name : String} {calls : List Exchange}
  {spec : StringMap String} {present : StringMap AttributeType}

/-- A request that is made only where it has an effect, and then the rest of a chain. -/
theorem serves_optional {wanted : Prop} [Decidable wanted] {request : ServerRequest}
    {answer : request.Answer} {rest : List Request} {next : StringMap AttributeType}
    (registered : server.get? name = some present)
    (answers : server.answer request = (.ok answer, server.insert name next))
    (idle : ¬ wanted → next = present)
    (chain : Chain ((if wanted then [.server cluster request] else []) ++ rest) calls)
    (served : server.ServesAll calls later) :
    (¬ AllOk calls ∧ (later.get? name = some present ∨ later.get? name = some next)) ∨
      ∃ (middle : Server) (others : List Exchange), middle.get? name = some next ∧
        Chain rest others ∧ middle.ServesAll others later ∧ (AllOk calls → AllOk others) := by
  split at chain
  · cases chain with
    | failed error =>
        refine .inl ⟨fun allOk => allOk.not_mem (List.mem_cons_self ..), ?_⟩
        cases served with
        | cons first others =>
            cases others
            rcases first.of_error with rfl | rfl
            · exact .inl registered
            · rw [answers]
              exact .inr (SortedMap.get?_insert_self ..)
    | went reply chain =>
        cases served with
        | cons first others =>
            have same := first.of_ok.symm.trans answers
            rw [(Prod.mk.inj same).2] at others
            refine .inr ⟨_, _, SortedMap.get?_insert_self .., chain, others, ?_⟩
            exact fun allOk exchange there => allOk exchange (List.mem_cons_of_mem _ there)
  · rw [idle ‹¬wanted›]
    exact .inr ⟨server, calls, registered, chain, served, id⟩

/-- The requests of a plan leave the attributes as they were, or as the plan wants them, or in
between; where all of them are answered the plan is carried out. -/
theorem serves_requests {plan : AttributePlan} (registered : server.get? name = some present)
    (chain : Chain (plan.requests cluster name) calls) (served : server.ServesAll calls later) :
    ∃ now, later.get? name = some now ∧ plan.Partly present now ∧
      (AllOk calls → now = plan.applied present) := by
  have nothing (none : ¬ plan.removals ≠ []) := AttributePlan.filter_of_none none present
  rcases serves_optional registered (answer_removeAttributes registered plan.removals) nothing
    chain served with ⟨failed, held⟩ | ⟨middle, others, cleared, chain, served, allOk⟩
  · rcases held with held | held
    · exact ⟨_, held, .inl rfl, fun allOk => absurd allOk failed⟩
    · exact ⟨_, held, .inr (.inl rfl), fun allOk => absurd allOk failed⟩
  · have unchanged (none : ¬ (!plan.additions.isEmpty) = true) :
        plan.applied present = present.filter fun held _ => held ∉ plan.removals :=
      AttributePlan.overlay_of_none none _
    rw [← List.append_nil (ite _ _ _)] at chain
    rcases serves_optional cleared (answer_addAttributes cleared plan.additions) unchanged chain
      served with ⟨failed, held⟩ | ⟨last, others, done, chain, served, _⟩
    · rcases held with held | held
      · exact ⟨_, held, .inr (.inl rfl), fun whole => absurd (allOk whole) failed⟩
      · exact ⟨_, held, .inr (.inr rfl), fun whole => absurd (allOk whole) failed⟩
    · cases chain
      cases served
      exact ⟨_, done, .inr (.inr rfl), fun _ => rfl⟩

end Server

/-- What a pass over the attributes of a namespace does where the spec agrees with the server. -/
structure AttributePlan.Heeds (name : String) (spec : StringMap String) (calls : List Exchange)
    (result : Except Error AttributePlan) : Prop where
  /-- It stops for what its calls come to, never for a clash that it finds. -/
  stops : ∀ error, result = .error error → ∃ request, .answered request (.error error) ∈ calls
  /-- It removes nothing that the spec names. -/
  removes : ∀ exchange ∈ calls, ∀ cluster target removed,
    exchange.request = .server cluster (.removeAttributes target removed) →
      target = name ∧ ∀ key ∈ removed, spec.get? key = none
  /-- It adds nothing but what the spec names, with the type of the spec. -/
  adds : ∀ exchange ∈ calls, ∀ cluster target added,
    exchange.request = .server cluster (.addAttributes target added) →
      target = name ∧ ∀ key type, added.get? key = some type → declared? spec key = some type

namespace Server

open AttributePlan

variable {first server later : Server} {name : String} {calls : List Exchange}
  {spec : StringMap String} {result : Except Error AttributePlan}
  {start present wanted : StringMap AttributeType}

theorem Round.cases (registered : server.get? name = some present)
    (round : Round name spec server calls result later) :
    (∃ cluster error, calls = [.answered (.server cluster (.listAttributes name)) (.error error)] ∧
      result = .error error ∧ later = server) ∨
    ∃ cluster changes,
      calls = .answered (.server cluster (.listAttributes name)) (.ok present) :: changes ∧
      server.ServesAll changes later ∧
      ((∃ error, make spec present = .error error ∧ changes = []) ∨
        ∃ plan, make spec present = .ok plan ∧ Chain (plan.requests cluster name) changes ∧
          Program.EndsIn plan changes result) := by
  rcases round with ⟨⟨cluster, trace⟩, served⟩
  have listing := answer_listAttributes registered
  rcases Program.trace_convergeAttributes trace with ⟨error, rfl, failed⟩ |
    ⟨listed, changes, rfl, follows⟩
  · refine .inl ⟨cluster, error, rfl, failed, ?_⟩
    cases served with
    | cons serves others =>
        cases others
        rcases serves.of_error with same | same
        · exact same
        · rw [same, listing]
  · cases served with
    | cons serves others =>
        have answers := serves.of_ok
        rw [listing] at answers
        cases answers
        refine .inr ⟨cluster, changes, rfl, others, follows.imp ?_ id⟩
        rintro ⟨error, planless, none, _⟩
        exact ⟨error, planless, none⟩

/-- Without a plan nothing is changed. -/
theorem Round.unchanged (registered : server.get? name = some present)
    (round : Round name spec server calls result later) (clash : ¬ Agrees spec present) :
    later = server ∧ ∀ exchange ∈ calls, exchange.request.changesAttributes = false := by
  rcases round.cases registered with ⟨cluster, error, rfl, _, same⟩ |
    ⟨cluster, changes, rfl, served, ⟨error, _, rfl⟩ | ⟨plan, isPlan, _⟩⟩
  · exact ⟨same, by simp [Request.changesAttributes]⟩
  · cases served
    exact ⟨rfl, by simp [Request.changesAttributes]⟩
  · exact absurd (agrees_of_make isPlan) clash

theorem heeds_of_chain {cluster : Cluster} {changes : List Exchange}
    (named : namedTypes spec = .ok wanted)
    (chain : Chain ((between wanted present).requests cluster name) changes)
    (ends : Program.EndsIn (between wanted present) changes result) :
    Heeds name spec (.answered (.server cluster (.listAttributes name)) (.ok present) :: changes)
      result := by
  have requested (exchange : Exchange)
      (there : exchange ∈
        .answered (.server cluster (.listAttributes name)) (.ok present) :: changes) :
      exchange.request = .server cluster (.listAttributes name) ∨
        exchange.request ∈ (between wanted present).requests cluster name := by
    rcases List.mem_cons.mp there with rfl | there
    · exact .inl rfl
    · exact .inr (chain.request_mem there)
  constructor
  · intro error isError
    rcases ends with isOk | ⟨request, other, there, isOther⟩
    · rw [isOk] at isError
      cases isError
    · rw [isOther] at isError
      cases isError
      exact ⟨request, List.mem_cons_of_mem _ there⟩
  · intro exchange there other target removed asks
    rcases requested exchange there with listed | isRequest
    · rw [asks] at listed
      cases listed
    · rcases request_cases isRequest with same | same
      · rw [asks] at same
        cases same
        exact ⟨rfl, fun key => unnamed_of_mem_removals named⟩
      · rw [asks] at same
        cases same
  · intro exchange there other target added asks
    rcases requested exchange there with listed | isRequest
    · rw [asks] at listed
      cases listed
    · rcases request_cases isRequest with same | same
      · rw [asks] at same
        cases same
      · rw [asks] at same
        cases same
        exact ⟨rfl, fun key type => declared?_of_additions named⟩

/-- A plan is made, and carried out as far as its calls go. -/
theorem Round.of_agrees (registered : server.get? name = some present)
    (round : Round name spec server calls result later) (agrees : Agrees spec present)
    (named : namedTypes spec = .ok wanted) :
    Heeds name spec calls result ∧ ∃ now, later.get? name = some now ∧
      (between wanted present).Partly present now ∧ (AllOk calls → now = wanted) := by
  have isPlan := make_of_agrees agrees named
  rcases round.cases registered with ⟨cluster, error, rfl, failed, rfl⟩ |
    ⟨cluster, changes, rfl, served, ⟨error, planless, _⟩ | ⟨plan, alsoPlan, chain, ends⟩⟩
  · refine ⟨⟨?_, by simp, by simp⟩, present, registered, .inl rfl, ?_⟩
    · intro other isError
      rw [failed] at isError
      cases isError
      exact ⟨_, List.mem_singleton_self _⟩
    · intro allOk
      exact absurd (List.mem_singleton_self _) allOk.not_mem
  · rw [isPlan] at planless
    cases planless
  · rw [isPlan] at alsoPlan
    cases alsoPlan
    rcases serves_requests registered chain served with ⟨now, held, partly, whole⟩
    refine ⟨heeds_of_chain named chain ends, now, held, partly, ?_⟩
    intro allOk
    rw [whole fun exchange there => allOk exchange (List.mem_cons_of_mem _ there)]
    exact applied_of_agrees agrees named

/-! ### What passes make of a server, one after the other -/

theorem Rounds.eq_of_clash (registered : first.get? name = some start) (clash : ¬ Agrees spec start)
    (rounds : Rounds name spec first server) : server = first := by
  induction rounds with
  | none => rfl
  | one earlier round ih =>
      rw [ih] at round
      exact (round.unchanged registered clash).1

/-- Whatever passes did, the spec still agrees with what there is. -/
theorem Rounds.underway (registered : first.get? name = some start) (agrees : Agrees spec start)
    (named : namedTypes spec = .ok wanted) (rounds : Rounds name spec first server) :
    ∃ now, server.get? name = some now ∧ Underway wanted start now := by
  induction rounds with
  | none => exact ⟨start, registered, underway_start⟩
  | one earlier round ih =>
      rcases ih with ⟨present, held, underway⟩
      rcases round.of_agrees held (underway.agrees named agrees) named with
        ⟨_, now, holds, partly, _⟩
      exact ⟨now, holds, underway.partly partly⟩

/-- A server that has the attributes of the spec is left alone. -/
theorem Round.settled (settled : server.get? name = some wanted)
    (named : namedTypes spec = .ok wanted) (round : Round name spec server calls result later) :
    later = server ∧ ∀ exchange ∈ calls, exchange.request.changesAttributes = false := by
  rcases round.cases settled with ⟨cluster, error, rfl, _, same⟩ |
    ⟨cluster, changes, rfl, served, ⟨error, planless, _⟩ | ⟨plan, isPlan, chain, _⟩⟩
  · exact ⟨same, by simp [Request.changesAttributes]⟩
  · rw [make_self named] at planless
    cases planless
  · rw [make_self named] at isPlan
    cases isPlan
    cases chain
    cases served
    exact ⟨rfl, by simp [Request.changesAttributes]⟩

theorem Rounds.settled (settled : server.get? name = some wanted)
    (named : namedTypes spec = .ok wanted) (rounds : Rounds name spec server later) :
    later = server := by
  induction rounds with
  | none => rfl
  | one earlier round ih =>
      rw [ih] at round
      exact (round.settled settled named).1

/-- Passes over the attributes of a namespace are made again and again, each of their calls may fail
with all of its effect or none, and nobody else changes the server. A spec with a type that does not
exist, or with a clash with what the server had at the start, never leads to a change. For any other
spec every pass heeds the spec, what the spec and the server had in common stays, and the first pass
whose calls are all answered leaves exactly the attributes of the spec; no pass changes them after
that. -/
theorem attributes_of_rounds (registered : first.get? name = some start)
    (earlier : Rounds name spec first server) (round : Round name spec server calls result later) :
    (¬ Agrees spec start →
      later = first ∧ ∀ exchange ∈ calls, exchange.request.changesAttributes = false) ∧
    (Agrees spec start →
      Heeds name spec calls result ∧
      (∃ now, later.get? name = some now ∧ ∀ key type, start.get? key = some type →
        declared? spec key = some type → now.get? key = some type) ∧
      (AllOk calls → ∃ wanted, namedTypes spec = .ok wanted ∧ later.get? name = some wanted ∧
        ∀ further asked ended final, Rounds name spec later further →
          Round name spec further asked ended final →
            final = later ∧ ∀ exchange ∈ asked, exchange.request.changesAttributes = false)) := by
  constructor
  · intro clash
    rw [earlier.eq_of_clash registered clash] at round
    exact round.unchanged registered clash
  · intro agrees
    rcases namedTypes_of_supported agrees.supported with ⟨wanted, named⟩
    rcases earlier.underway registered agrees named with ⟨present, held, underway⟩
    rcases round.of_agrees held (underway.agrees named agrees) named with
      ⟨heeds, now, holds, partly, whole⟩
    refine ⟨heeds, ⟨now, holds, ?_⟩, ?_⟩
    · intro key type atStart isDeclared
      rw [← get?_namedTypes named] at isDeclared
      exact (underway.partly partly).kept key type atStart isDeclared
    · intro allOk
      rw [whole allOk] at holds
      refine ⟨wanted, named, holds, ?_⟩
      intro further asked ended final more last
      rw [more.settled holds named] at last
      exact last.settled holds named

/-- The answers of a server, some of which are lost. -/
def replies (server : Server) (lost : ServerRequest → Bool) : Replies
  | .store _ => .error (.serialization "unasked")
  | .connect _ => .ok ()
  | .server _ request =>
      if lost request then .error (request.failure .unavailable "lost")
      else (server.answer request).1
  | .close _ => .ok ()

/-- A server that has an attribute too many. -/
def dated : Server :=
  .ofList [("payments", .ofList [("CustomerId", .keyword), ("Legacy", .text)])]

/-- A server that has had this attribute removed. -/
def cleared : Server := .ofList [("payments", .ofList [("CustomerId", .keyword)])]

/-- The attributes that there should be. -/
def billed : StringMap String := .ofList [("Amount", "Int"), ("CustomerId", "Keyword")]

/-- A pass hears that the removal failed, which it did not, and the pass after it adds what is still
missing. -/
theorem attributes_of_unheard :
    ∃ calls result later, Rounds "payments" billed dated cleared ∧
      Round "payments" billed cleared calls result later ∧ AllOk calls ∧
      calls.map Exchange.request = [.server .prod (.listAttributes "payments"),
        .server .prod (.addAttributes "payments" (.ofList [("Amount", .int)]))] ∧
      Heeds "payments" billed calls result ∧
      later.get? "payments" = some (.ofList [("Amount", .int), ("CustomerId", .keyword)]) := by
  let pass := (Program.convergeAttributes .prod "payments" billed).run
  let removals : ServerRequest → Bool := fun request => request matches .removeAttributes _ _
  have first : Round "payments" billed dated
      (Program.follow (dated.replies removals) pass).1
      (Program.follow (dated.replies removals) pass).2 cleared := by
    refine ⟨⟨.prod, Program.trace_follow _ _⟩, ?_⟩
    exact .cons (.answered .prod (.listAttributes "payments"))
      (.cons (.unheard .prod (.removeAttributes "payments" ["Legacy"]) _) (.nil _))
  have second : Round "payments" billed cleared
      (Program.follow (cleared.replies fun _ => false) pass).1
      (Program.follow (cleared.replies fun _ => false) pass).2
      (cleared.answer (.addAttributes "payments" (.ofList [("Amount", .int)]))).2 := by
    refine ⟨⟨.prod, Program.trace_follow _ _⟩, ?_⟩
    exact .cons (.answered .prod (.listAttributes "payments"))
      (.cons (.answered .prod (.addAttributes "payments" (.ofList [("Amount", .int)]))) (.nil _))
  have agrees : Agrees billed (.ofList [("CustomerId", .keyword), ("Legacy", .text)]) :=
    agrees_of_make rfl
  have allOk : AllOk (Program.follow (cleared.replies fun _ => false) pass).1 := by
    rintro exchange (_ | ⟨_, _ | ⟨_, ⟨⟩⟩⟩)
    · exact ⟨_, _, rfl⟩
    · exact ⟨_, _, rfl⟩
  rcases (attributes_of_rounds rfl (.one .none first) second).2 agrees with ⟨heeds, _, settles⟩
  rcases settles allOk with ⟨wanted, named, settled, _⟩
  refine ⟨_, _, _, .one .none first, second, allOk, rfl, heeds, settled.trans ?_⟩
  have isWanted : namedTypes billed =
      .ok (.ofList [("Amount", .int), ("CustomerId", .keyword)]) := rfl
  rw [isWanted] at named
  cases named
  rfl

end Server

end ClusterOperator
