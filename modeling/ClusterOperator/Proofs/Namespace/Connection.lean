import ClusterOperator.Proofs.Run.Closing

/-!
# Connections and the deadline

A connection is closed after its use whatever comes of the use. But the closing is a request of the
pass like the others and comes after them, so that where the deadline cuts one of those it is never
made.
-/

namespace ClusterOperator

/-- Whether a request opens a connection. -/
def Request.isConnect : Request → Bool
  | connect _ => true
  | _ => false

/-- Whether a request closes a connection. -/
def Request.isClose : Request → Bool
  | close _ => true
  | _ => false

/-- The requests that open connections. -/
def openings (calls : List Exchange) : List Request :=
  (calls.map Exchange.request).filter Request.isConnect

/-- The requests that close connections. -/
def closings (calls : List Exchange) : List Request :=
  (calls.map Exchange.request).filter Request.isClose

/-- The deadline struck while a server was asked for something. -/
def CutInUse (calls : List Exchange) : Prop :=
  ∃ cluster request, .cut (.server cluster request) ∈ calls

/-- All calls go over the connection to a server, which answers them. -/
def Spoken (cluster : Cluster) (calls : List Exchange) : Prop :=
  ∀ exchange ∈ calls, ∃ request answer, exchange = .answered (.server cluster request) answer

/-- What becomes of a connection under a deadline. -/
inductive Tended (cluster : Cluster) : List Exchange → Prop
  | unconnected {exchange : Exchange} (connects : exchange.request = .connect cluster)
      (unconnected : exchange ≠ .answered (.connect cluster) (.ok ())) : Tended cluster [exchange]
  | closed {used : List Exchange} {last : Exchange} (spoken : Spoken cluster used)
      (closes : last.request = .close cluster) :
      Tended cluster (.answered (.connect cluster) (.ok ()) :: (used ++ [last]))
  | abandoned {used : List Exchange} (spoken : Spoken cluster used) (request : ServerRequest) :
      Tended cluster
        (.answered (.connect cluster) (.ok ()) :: (used ++ [.cut (.server cluster request)]))

section Spoken

variable {cluster : Cluster} {calls : List Exchange}

theorem spoken_nil : Spoken cluster [] := by
  rintro exchange ⟨⟩

theorem spoken_cons {request : ServerRequest} {answer : Except Error request.Answer} :
    Spoken cluster (.answered (.server cluster request) answer :: calls) ↔
      Spoken cluster calls := by
  simp [Spoken]

theorem Chain.spoken {requests : List Request} (chain : Chain requests calls)
    (remote : ∀ request ∈ requests, ∃ asked, request = .server cluster asked) :
    Spoken cluster calls := by
  induction chain with
  | done => exact spoken_nil
  | failed error =>
      rcases remote _ (List.mem_cons_self ..) with ⟨asked, rfl⟩
      exact spoken_cons.mpr spoken_nil
  | went answer later ih =>
      rcases remote _ (List.mem_cons_self ..) with ⟨asked, rfl⟩
      exact spoken_cons.mpr (ih fun request there => remote request (List.mem_cons_of_mem _ there))

theorem AttributeTalk.spoken {name : String} {spec : StringMap String}
    (talk : AttributeTalk cluster name spec calls) : Spoken cluster calls := by
  cases talk with
  | unlisted error => exact spoken_cons.mpr spoken_nil
  | planless planless => exact spoken_cons.mpr spoken_nil
  | planned isPlan changed =>
      refine spoken_cons.mpr (changed.spoken ?_)
      intro request there
      rcases AttributePlan.request_cases there with rfl | rfl
      · exact ⟨_, rfl⟩
      · exact ⟨_, rfl⟩

theorem RegistrationTalk.spoken {request : NamespaceRequest} {spec : StringMap String}
    (talk : RegistrationTalk cluster request spec calls) : Spoken cluster calls := by
  cases talk with
  | refused other => exact spoken_cons.mpr spoken_nil
  | registered attributes => exact spoken_cons.mpr attributes.spoken
  | outdated known failure => exact spoken_cons.mpr (spoken_cons.mpr spoken_nil)
  | updated known attributes => exact spoken_cons.mpr (spoken_cons.mpr attributes.spoken)

theorem DeletionTalk.spoken {name : String} (talk : DeletionTalk cluster name calls) :
    Spoken cluster calls := by
  rcases talk with ⟨answer, rfl⟩
  exact spoken_cons.mpr spoken_nil

theorem Spoken.not_cut (spoken : Spoken cluster calls) {request : Request} :
    .cut request ∉ calls := by
  intro there
  rcases spoken _ there with ⟨asked, answer, ⟨⟩⟩

theorem Spoken.openings_eq (spoken : Spoken cluster calls) : openings calls = [] := by
  refine List.filter_eq_nil_iff.mpr fun request there => ?_
  rcases List.mem_map.mp there with ⟨exchange, among, rfl⟩
  rcases spoken exchange among with ⟨asked, answer, rfl⟩
  exact Bool.false_ne_true

theorem Spoken.closings_eq (spoken : Spoken cluster calls) : closings calls = [] := by
  refine List.filter_eq_nil_iff.mpr fun request there => ?_
  rcases List.mem_map.mp there with ⟨exchange, among, rfl⟩
  rcases spoken exchange among with ⟨asked, answer, rfl⟩
  exact Bool.false_ne_true

end Spoken

/-! ### What the deadline does to a session -/

section Tended

variable {cluster : Cluster} {calls : List Exchange} {use : List Exchange → Prop}

theorem Session.tended (session : Session cluster use calls)
    (speaks : ∀ used, use used → Spoken cluster used) :
    Tended cluster calls ∧ ¬ CutInUse calls := by
  cases session with
  | unconnected error =>
      refine ⟨.unconnected rfl (by simp), ?_⟩
      rintro ⟨server, request, there⟩
      cases List.mem_singleton.mp there
  | connected closed used =>
      have spoken := speaks _ used
      refine ⟨.closed spoken rfl, ?_⟩
      rintro ⟨server, request, _ | ⟨_, there⟩⟩
      rcases List.mem_append.mp there with there | there
      · exact spoken.not_cut there
      · cases List.mem_singleton.mp there

/-- A session that is cut short was cut at its first request, at its last one, or in between. -/
theorem CutShort.tended (cut : CutShort (Session cluster use) calls)
    (speaks : ∀ used, use used → Spoken cluster used) : Tended cluster calls := by
  rcases cut with ⟨front, request, answer, back, session, rfl⟩
  generalize same : front ++ .answered request answer :: back = whole at session
  cases front with
  | nil =>
      have isConnect : request = .connect cluster := by
        cases session with
        | unconnected error =>
            cases (List.cons.inj same).1
            rfl
        | connected closed used =>
            cases (List.cons.inj same).1
            rfl
      subst isConnect
      exact .unconnected rfl (by simp)
  | cons first front =>
      cases session with
      | unconnected error => simp at same
      | connected closed used =>
          rw [List.cons_append, List.cons_append, List.cons.injEq] at same
          rcases same with ⟨rfl, same⟩
          have spoken := speaks _ used
          rcases List.eq_nil_or_concat back with rfl | ⟨back, last, rfl⟩
          · rcases List.append_inj' same rfl with ⟨rfl, isLast⟩
            cases (List.cons.inj isLast).1
            exact .closed spoken rfl
          · rw [List.concat_eq_append, ← List.cons_append, ← List.append_assoc] at same
            rcases List.append_inj' same rfl with ⟨rfl, _⟩
            rcases spoken (.answered request answer) (by simp) with ⟨asked, _, ⟨⟩⟩
            refine .abandoned (fun exchange there => ?_) asked
            exact spoken exchange (List.mem_append_left _ there)

/-- Under a deadline a connection is tended, and where it is given up the program is late. -/
theorem Program.Limited.tended {α : Type} {late result : α} {program : Program α}
    (limited : Limited late program calls result)
    (session : ∀ calls result, Trace program calls result → Session cluster use calls)
    (speaks : ∀ used, use used → Spoken cluster used) :
    Tended cluster calls ∧ (CutInUse calls → result = late) := by
  rcases limited with whole | ⟨isLate, cut⟩
  · rcases (session _ _ whole).tended speaks with ⟨tended, uncut⟩
    exact ⟨tended, fun cut => absurd cut uncut⟩
  · refine ⟨CutShort.tended (cut.mono ?_) speaks, fun _ => isLate⟩
    rintro calls ⟨result, whole⟩
    exact session calls result whole

/-- Every connection is closed once, unless the deadline strikes while it is in use. -/
structure ClosedUnlessCut (calls : List Exchange) : Prop where
  once : ∀ cluster, History.Connected calls cluster → openings calls = [.connect cluster] ∧
    (¬ CutInUse calls → closings calls = [.close cluster])
  abandoned : CutInUse calls → closings calls = []
  unopened : (∀ cluster, ¬ History.Connected calls cluster) → closings calls = []

theorem Spoken.openings_between {used : List Exchange} (spoken : Spoken cluster used)
    (first last : Exchange) :
    openings (first :: (used ++ [last])) = [first.request, last.request].filter (·.isConnect) := by
  have silent := spoken.openings_eq
  simp only [openings, List.map_cons, List.map_append, List.filter_cons, List.filter_append,
    List.map_nil] at silent ⊢
  rw [silent, List.nil_append]

theorem Spoken.closings_between {used : List Exchange} (spoken : Spoken cluster used)
    (first last : Exchange) :
    closings (first :: (used ++ [last])) = [first.request, last.request].filter (·.isClose) := by
  have silent := spoken.closings_eq
  simp only [closings, List.map_cons, List.map_append, List.filter_cons, List.filter_append,
    List.map_nil] at silent ⊢
  rw [silent, List.nil_append]

theorem Spoken.mem_between {used : List Exchange} {first last exchange : Exchange}
    (spoken : Spoken cluster used) (there : exchange ∈ first :: (used ++ [last])) :
    exchange = first ∨ exchange = last ∨
      ∃ request answer, exchange = .answered (.server cluster request) answer := by
  simp only [List.mem_cons, List.mem_append, List.not_mem_nil, or_false] at there
  rcases there with same | there | same
  · exact .inl same
  · exact .inr (.inr (spoken exchange there))
  · exact .inr (.inl same)

theorem Tended.closedUnlessCut (tended : Tended cluster calls) : ClosedUnlessCut calls := by
  cases tended with
  | @unconnected exchange connects unconnected =>
      have silent : closings [exchange] = [] := by
        change [exchange.request].filter _ = _
        rw [connects]
        rfl
      refine ⟨?_, fun _ => silent, fun _ => silent⟩
      intro other connected
      have same := List.mem_singleton.mp connected
      subst same
      cases connects
      exact absurd rfl unconnected
  | @closed used last spoken closes =>
      have notLast {exchange : Exchange} (other : exchange.request ≠ .close cluster) :
          exchange ≠ last := by
        rintro rfl
        exact other closes
      refine ⟨?_, ?_, ?_⟩
      · intro other connected
        rw [spoken.openings_between, spoken.closings_between, closes]
        rcases spoken.mem_between connected with same | same | ⟨_, _, ⟨⟩⟩
        · cases same
          exact ⟨rfl, fun _ => rfl⟩
        · exact absurd same (notLast (by simp))
      · rintro ⟨server, request, cut⟩
        rcases spoken.mem_between cut with ⟨⟨⟩⟩ | same | ⟨_, _, ⟨⟩⟩
        exact absurd same (notLast (by simp))
      · intro never
        exact absurd (List.mem_cons_self ..) (never cluster)
  | @abandoned used spoken request =>
      have silent := spoken.closings_between (.answered (.connect cluster) (.ok ()))
        (.cut (.server cluster request))
      refine ⟨?_, fun _ => silent, fun _ => silent⟩
      intro other connected
      rw [spoken.openings_between]
      rcases spoken.mem_between connected with same | ⟨⟨⟩⟩ | ⟨_, _, ⟨⟩⟩
      cases same
      refine ⟨rfl, fun uncut => absurd ?_ uncut⟩
      exact ⟨cluster, request, by simp⟩

theorem Tended.isRemote (tended : Tended cluster calls) {exchange : Exchange}
    (there : exchange ∈ calls) : exchange.request.isRemote := by
  cases tended with
  | unconnected connects unconnected =>
      rw [List.mem_singleton.mp there, connects]
      rfl
  | closed spoken closes =>
      rcases spoken.mem_between there with rfl | rfl | ⟨_, _, rfl⟩
      · rfl
      · rw [closes]
        rfl
      · rfl
  | abandoned spoken request =>
      rcases spoken.mem_between there with rfl | rfl | ⟨_, _, rfl⟩
      · rfl
      · rfl
      · rfl

end Tended

/-! ### Whole passes -/

section RemoteCalls

variable {calls : List Exchange}

theorem connected_remoteCalls {cluster : Cluster} :
    History.Connected (remoteCalls calls) cluster ↔ History.Connected calls cluster := by
  simp [History.Connected, remoteCalls, Request.isRemote]

theorem cutInUse_remoteCalls : CutInUse (remoteCalls calls) ↔ CutInUse calls := by
  simp [CutInUse, remoteCalls, Request.isRemote]

theorem openings_remoteCalls : openings (remoteCalls calls) = openings calls := by
  have remote (request : Request) :
      (request.isConnect && request.isRemote) = request.isConnect := by
    cases request <;> rfl
  simp only [openings, remoteCalls, List.filter_map, List.filter_filter, Function.comp_def, remote]

theorem closings_remoteCalls : closings (remoteCalls calls) = closings calls := by
  have remote (request : Request) : (request.isClose && request.isRemote) = request.isClose := by
    cases request <;> rfl
  simp only [closings, remoteCalls, List.filter_map, List.filter_filter, Function.comp_def, remote]

/-- What is asked of the store has nothing to do with connections. -/
theorem ClosedUnlessCut.of_remoteCalls (remote : ClosedUnlessCut (remoteCalls calls)) :
    ClosedUnlessCut calls := by
  rcases remote with ⟨once, abandoned, unopened⟩
  simp only [connected_remoteCalls, cutInUse_remoteCalls, openings_remoteCalls,
    closings_remoteCalls] at once abandoned unopened
  exact ⟨once, abandoned, unopened⟩

theorem closedUnlessCut_nil : ClosedUnlessCut [] :=
  ⟨by simp [History.Connected], by simp [closings], by simp [closings]⟩

end RemoteCalls

open Program

variable {settings : Settings} {now : Instant} {key : ObjectKey}

/-- What the work of a pass asks of servers, and what comes of it where the deadline strikes. -/
theorem Namespace.Work.tended {held changed : Namespace} {body : List Exchange}
    {outcome : Except Error Outcome} (work : held.Work settings now key body changed outcome) :
    ∃ reading talk, body = reading :: talk ∧
      reading.request = .store (.getCluster held.clusterKey) ∧
      (talk = [] ∨ (∃ cluster, Tended cluster talk) ∧
        (CutInUse talk → outcome = .error (.timeout key.text settings.passTimeout))) := by
  have registers {cluster : Cluster} (calls : List Exchange) (result : Except Error Unit)
      (trace : Trace (withConnection cluster (register cluster held.alignFinalizer)).run calls
        result) :
      Session cluster (Spoken cluster) calls :=
    session_of_trace trace fun _ _ trace => (registrationTalk_of_trace trace).spoken
  have deletes {cluster : Cluster} (calls : List Exchange) (result : Except Error Unit)
      (trace : Trace (deleteRemote cluster held).run calls result) :
      Session cluster (DeletionTalk cluster held.name) calls := deletionTalk_of_trace trace
  cases work with
  | unread error reads unread => exact ⟨_, [], rfl, reads, .inl rfl⟩
  | missing alive error => exact ⟨_, [], rfl, rfl, .inl rfl⟩
  | released deleting => exact ⟨_, [], rfl, rfl, .inl rfl⟩
  | waiting unready => exact ⟨_, [], rfl, rfl, .inl rfl⟩
  | bare ready deleting bare => exact ⟨_, [], rfl, rfl, .inl rfl⟩
  | deleted ready deleting finalizer talks =>
      rcases talks.tended deletes fun _ talk => talk.spoken with ⟨tended, late⟩
      refine ⟨_, _, rfl, rfl, .inr ⟨⟨_, tended⟩, fun cut => ?_⟩⟩
      cases late cut
  | undeleted ready deleting finalizer talks =>
      rcases talks.tended deletes fun _ talk => talk.spoken with ⟨tended, late⟩
      refine ⟨_, _, rfl, rfl, .inr ⟨⟨_, tended⟩, fun cut => ?_⟩⟩
      cases late cut
      rfl
  | converged ready alive talks =>
      rcases talks.tended registers fun _ spoken => spoken with ⟨tended, late⟩
      refine ⟨_, _, rfl, rfl, .inr ⟨⟨_, tended⟩, fun cut => ?_⟩⟩
      cases late cut
  | unconverged ready alive talks =>
      rcases talks.tended registers fun _ spoken => spoken with ⟨tended, late⟩
      refine ⟨_, _, rfl, rfl, .inr ⟨⟨_, tended⟩, fun cut => ?_⟩⟩
      cases late cut
      rfl

/-- For every pass, whatever servers answer and wherever the deadline strikes: a connection that was
opened is closed exactly once, unless the deadline strikes while the server is asked for something.
Then it is never closed, and the pass ends because it is late. -/
theorem Program.closed_unless_cut {calls : List Exchange} {result : Except Error Action}
    (trace : Trace (reconcileNamespace settings now key).run calls result) :
    (∀ cluster, History.Connected calls cluster →
      openings calls = [.connect cluster] ∧
        (¬ CutInUse calls → closings calls = [.close cluster])) ∧
    (CutInUse calls →
      closings calls = [] ∧ result = .error (.timeout key.text settings.passTimeout)) ∧
    ((∀ cluster, ¬ History.Connected calls cluster) → closings calls = []) := by
  have whole : ClosedUnlessCut (remoteCalls calls) ∧ (CutInUse (remoteCalls calls) →
      result = .error (.timeout key.text settings.passTimeout)) := by
    have silent : ClosedUnlessCut [] ∧ (CutInUse [] →
        result = .error (.timeout key.text settings.passTimeout)) :=
      ⟨closedUnlessCut_nil, by simp [CutInUse]⟩
    rcases namespaceEnds_of_trace trace with ⟨error, rfl, _⟩ | ⟨spared, _⟩ |
      ⟨outcome, written, closes, isResult⟩
    · exact silent
    · cases spared
      exact silent
    · cases closes with
      | @ns _ held changed _ _ body last goes closing =>
          rcases (work_of_trace goes).tended with ⟨reading, talk, rfl, reads, tended⟩
          have outline : Namespace.Outline key held reading talk
              (.answered (.store (.getNamespace key)) (.ok (some held)) ::
                (reading :: talk ++ last)) := by
            refine ⟨reads, ?_, last, rfl, ?_⟩
            · rcases tended with rfl | ⟨⟨cluster, tended⟩, _⟩
              · exact List.forall_mem_nil _
              · exact fun _ => tended.isRemote
            · cases closing with
              | idle nothing => exact List.forall_mem_nil _
              | wrote something answer =>
                  intro exchange there
                  rw [List.mem_singleton.mp there]
                  exact ⟨_, rfl⟩
          rw [outline.remoteCalls_eq]
          rcases tended with rfl | ⟨⟨cluster, tended⟩, late⟩
          · exact silent
          · refine ⟨tended.closedUnlessCut, fun cut => ?_⟩
            have failed : outcome = .error (.timeout key.text settings.passTimeout) := late cut
            rw [isResult, failed]
            cases written with
            | none => rfl
            | some answer => cases answer <;> rfl
  rcases whole with ⟨remote, late⟩
  rcases remote.of_remoteCalls with ⟨once, abandoned, unopened⟩
  exact ⟨once, fun cut => ⟨abandoned cut, late (cutInUse_remoteCalls.mpr cut)⟩, unopened⟩

/-- The deadline strikes while the namespace is registered, and the connection stays open. -/
theorem Program.not_closed_when_registering_is_late :
    let ns := Namespace.payments
    let late := Error.timeout ns.key.text Settings.standardTimeout
    let patch := ObjectPatch.between ns (ns.alignFinalizer.record default (.error late))
    let calls : List Exchange :=
      [.answered (.store (.getNamespace ns.key)) (.ok (some ns)),
        .answered (.store (.getCluster ns.clusterKey)) (.ok (some .prod)),
        .answered (.connect .prod) (.ok ()), .cut (.server .prod (.register (.of .prod ns))),
        .answered (.store (.patchNamespace ns.key patch)) (.ok ())]
    Trace (reconcileNamespace {} default ns.key).run calls (.error late) ∧
      openings calls = [.connect .prod] ∧ closings calls = [] := by
  intro ns late patch calls
  have trace : Trace (reconcileNamespace {} default ns.key).run calls (.error late) := by
    refine ⟨_, _, rfl, .inr ⟨_, _, rfl, .inr ⟨_, _, rfl, .inl ⟨_, rfl, ?_⟩⟩⟩⟩
    exact ⟨_, _, rfl, rfl, rfl⟩
  have connected : History.Connected calls .prod := List.mem_of_getElem? (i := 2) rfl
  have cut : CutInUse calls := ⟨.prod, _, List.mem_of_getElem? (i := 3) rfl⟩
  rcases closed_unless_cut trace with ⟨once, abandoned, _⟩
  exact ⟨trace, (once .prod connected).1, (abandoned cut).1⟩

end ClusterOperator
