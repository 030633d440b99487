import ClusterOperator.Proofs.Namespace.Work
import ClusterOperator.Proofs.Program.Conclusion
import ClusterOperator.Proofs.Run.Schedule

/-!
# Conversations of namespace passes

What a pass asks of servers, from its beginning to its end, compared with what it read: nothing
before the cluster is known to be ready, and after that the conversation that goes with the object.
-/

namespace ClusterOperator

namespace Namespace

/-- What a pass asks after it has read its object, up to what it writes in the end. -/
inductive Inquiry (settings : Settings) (held : Namespace) :
    List Exchange → Namespace × Except Error Outcome → Prop
  | unread {reading : Exchange} {left : Namespace × Except Error Outcome}
      (reads : reading.request = .store (.getCluster held.clusterKey))
      (unread : ∀ cluster,
        reading ≠ .answered (.store (.getCluster held.clusterKey)) (.ok cluster)) :
      Inquiry settings held [reading] left
  | waiting {cluster : Cluster} (unready : cluster.isReady = false) :
      Inquiry settings held
        [.answered (.store (.getCluster held.clusterKey)) (.ok (some cluster))]
        (held, .ok (.requeue settings.pollInterval))
  | read {cluster : Option Cluster} {talk : List Exchange}
      {left : Namespace × Except Error Outcome}
      (ready : ∀ found, cluster = some found → found.isReady) (talks : held.Talk cluster talk) :
      Inquiry settings held
        (.answered (.store (.getCluster held.clusterKey)) (.ok cluster) :: talk) left

end Namespace

namespace Program

variable {calls : List Exchange}

theorem inquiry_of_trace {settings : Settings} {now : Instant} {key : ObjectKey}
    {held : Namespace} {left : Namespace × Except Error Outcome}
    (trace : Trace (namespaceBody settings now key held) calls left) :
    held.Inquiry settings calls left := by
  have ready {cluster : Cluster} (ready : cluster.isReady) (other : Cluster)
      (same : some cluster = some other) : other.isReady := Option.some_inj.mp same ▸ ready
  rcases left with ⟨changed, outcome⟩
  cases work_of_trace trace with
  | unread error reads unread => exact .unread reads unread
  | missing alive error => exact .read (by simp) .absent
  | released deleting => exact .read (by simp) .absent
  | waiting unready => exact .waiting unready
  | bare isReady deleting bare => exact .read (ready isReady) (.leaving isReady deleting bare)
  | deleted isReady deleting finalizer talks =>
      refine .read (ready isReady) (.deletion isReady deleting finalizer ?_)
      exact talks.deadlined fun _ _ => deletionTalk_of_trace
  | undeleted isReady deleting finalizer talks =>
      refine .read (ready isReady) (.deletion isReady deleting finalizer ?_)
      exact talks.deadlined fun _ _ => deletionTalk_of_trace
  | converged isReady alive talks =>
      refine .read (ready isReady) (.registration isReady alive ?_)
      refine talks.deadlined fun calls result trace => ?_
      exact session_of_trace trace fun calls result trace => registrationTalk_of_aligned trace
  | unconverged isReady alive talks =>
      refine .read (ready isReady) (.registration isReady alive ?_)
      refine talks.deadlined fun calls result trace => ?_
      exact session_of_trace trace fun calls result trace => registrationTalk_of_aligned trace

end Program

namespace Namespace

/-- What a pass asks of servers, by what it read. -/
structure FrontendCalls (settings : Settings) (key : ObjectKey) (calls : List Exchange)
    (result : Except Error Action) : Prop where
  silent : (∀ held cluster, History.Read calls key held → ¬ History.Found calls held cluster) →
    remoteCalls calls = []
  talks : ∀ held cluster, History.Read calls key held → History.Found calls held cluster →
    held.Talk cluster (remoteCalls calls)
  waits : ∀ held cluster, History.Read calls key held → History.Found calls held (some cluster) →
    cluster.isReady = false →
      calls = (History.gate key held (some cluster)).reverse ∧
        result = .ok (.requeue settings.pollInterval)
  unchanged : ∀ held server present error, History.Read calls key held →
    .answered (.server server (.listAttributes held.name)) (.ok present) ∈ calls →
    AttributePlan.make held.spec.searchAttributes present = .error error →
      ∀ exchange ∈ calls, exchange.request.changesAttributes = false

variable {settings : Settings} {key : ObjectKey} {calls : List Exchange}
  {result : Except Error Action}

theorem frontendCalls_of_unread {answer : Except Error (Option Namespace)}
    (unread : ∀ held, answer ≠ .ok (some held)) :
    FrontendCalls settings key [.answered (.store (.getNamespace key)) answer] result := by
  have never (held : Namespace) :
      ¬ History.Read [.answered (.store (.getNamespace key)) answer] key held := by
    intro read
    cases List.mem_singleton.mp read
    exact unread held rfl
  exact ⟨fun _ => rfl, fun held _ read => absurd read (never held),
    fun held _ read => absurd read (never held), fun held _ _ _ read => absurd read (never held)⟩

/-- The calls of a pass that read its object, asked for the cluster, talked with a server, and
wrote. -/
structure Outline (key : ObjectKey) (held : Namespace) (reading : Exchange)
    (talk calls : List Exchange) : Prop where
  reads : reading.request = .store (.getCluster held.clusterKey)
  remote : ∀ exchange ∈ talk, exchange.request.isRemote
  split : ∃ ending,
    calls = .answered (.store (.getNamespace key)) (.ok (some held)) :: reading ::
      (talk ++ ending) ∧
    ∀ exchange ∈ ending, ∃ patch, exchange.request = .store (.patchNamespace key patch)

namespace Outline

variable {held : Namespace} {reading : Exchange} {talk : List Exchange}

/-- The store is asked for the object, for the cluster, and to patch the object. -/
theorem mem_cases {exchange : Exchange} (outline : Outline key held reading talk calls)
    (there : exchange ∈ calls) :
    exchange = .answered (.store (.getNamespace key)) (.ok (some held)) ∨ exchange = reading ∨
      exchange ∈ talk ∨ ∃ patch, exchange.request = .store (.patchNamespace key patch) := by
  rcases outline.split with ⟨ending, rfl, writes⟩
  simp only [List.mem_cons, List.mem_append] at there
  rcases there with same | same | there | there
  · exact .inl same
  · exact .inr (.inl same)
  · exact .inr (.inr (.inl there))
  · exact .inr (.inr (.inr (writes exchange there)))

theorem read_unique {other : Namespace} (outline : Outline key held reading talk calls)
    (read : History.Read calls key other) : other = held := by
  rcases outline.mem_cases read with same | same | there | ⟨patch, ⟨⟩⟩
  · cases same
    rfl
  · cases (congrArg Exchange.request same).trans outline.reads
  · cases outline.remote _ there

theorem reading_of_found {cluster : Option Cluster} (outline : Outline key held reading talk calls)
    (found : History.Found calls held cluster) :
    reading = .answered (.store (.getCluster held.clusterKey)) (.ok cluster) := by
  rcases outline.mem_cases found with same | same | there | ⟨patch, ⟨⟩⟩
  · cases same
  · exact same.symm
  · cases outline.remote _ there

theorem remoteCalls_eq (outline : Outline key held reading talk calls) :
    remoteCalls calls = talk := by
  rcases outline.split with ⟨ending, rfl, writes⟩
  have kept : talk.filter (·.request.isRemote) = talk := List.filter_eq_self.mpr outline.remote
  have dropped : ending.filter (·.request.isRemote) = [] := by
    refine List.filter_eq_nil_iff.mpr fun exchange there => ?_
    rcases writes exchange there with ⟨patch, same⟩
    rw [same]
    exact Bool.false_ne_true
  have skipped : ¬ reading.request.isRemote := ne_true_of_eq_false (by rw [outline.reads]; rfl)
  change List.filter (·.request.isRemote) (reading :: (talk ++ ending)) = talk
  rw [List.filter_cons, if_neg skipped, List.filter_append, kept, dropped, List.append_nil]

/-- A pass that talks as its object and the cluster ask for makes the calls that it should. -/
theorem frontendCalls (outline : Outline key held reading talk calls)
    (talks : (∀ cluster, reading ≠ .answered (.store (.getCluster held.clusterKey)) (.ok cluster)) ∧
        talk = [] ∨
      ∃ cluster, reading = .answered (.store (.getCluster held.clusterKey)) (.ok cluster) ∧
        held.Talk cluster talk)
    (waits : ∀ cluster,
      reading = .answered (.store (.getCluster held.clusterKey)) (.ok (some cluster)) →
      cluster.isReady = false →
        calls = (History.gate key held (some cluster)).reverse ∧
          result = .ok (.requeue settings.pollInterval)) :
    FrontendCalls settings key calls result where
  silent := by
    intro unread
    rw [outline.remoteCalls_eq]
    rcases talks with ⟨_, silent⟩ | ⟨cluster, rfl, _⟩
    · exact silent
    · rcases outline.split with ⟨ending, rfl, _⟩
      refine absurd ?_ (unread held cluster (List.mem_cons_self ..))
      exact List.mem_cons_of_mem _ (List.mem_cons_self ..)
  talks := by
    intro other cluster read found
    cases outline.read_unique read
    rw [outline.remoteCalls_eq]
    have isReading := outline.reading_of_found found
    rcases talks with ⟨unread, _⟩ | ⟨_, same, talk⟩
    · exact absurd isReading (unread cluster)
    · cases isReading.symm.trans same
      exact talk
  waits := by
    intro other cluster read found
    cases outline.read_unique read
    exact waits cluster (outline.reading_of_found found)
  unchanged := by
    intro other server present error read listed planless exchange there
    cases outline.read_unique read
    have spoken {exchange : Exchange} (there : exchange ∈ calls)
        (remote : exchange.request.isRemote) : exchange ∈ talk := by
      rw [← outline.remoteCalls_eq]
      exact List.mem_filter.mpr ⟨there, remote⟩
    rcases talks with ⟨_, rfl⟩ | ⟨cluster, _, talk⟩
    · cases spoken listed rfl
    cases remote : exchange.request.isRemote with
    | true => exact talk.unchanged (spoken listed rfl) planless (spoken there remote)
    | false => exact Request.changesAttributes_of_local remote

end Outline

end Namespace

namespace Program

open Namespace (Outline)

variable {settings : Settings} {key : ObjectKey} {calls : List Exchange}
  {result : Except Error Action}

theorem isEmpty_between_self (held : Namespace) :
    (ObjectPatch.between held held).isEmpty := by
  have finalizers : (ObjectPatch.between held held).finalizers = none := if_pos rfl
  have status : (ObjectPatch.between held held).status = none := if_pos rfl
  rw [ObjectPatch.isEmpty, finalizers, status]
  rfl

/-- In the end a pass writes what it changed, if it changed anything. -/
theorem trace_ending {failureKey : String} {patch : ObjectPatch NamespaceStatus}
    {outcome : Except Error Outcome}
    (trace : Trace (do
      let written ←
        if patch.isEmpty then pure (.ok ())
          else attempt (askStore (.patchNamespace key patch))
      conclude failureKey (settle outcome written) : Fallible Action).run calls result) :
    (∀ exchange ∈ calls, ∃ patch, exchange.request = .store (.patchNamespace key patch)) ∧
      ∀ good, patch.isEmpty → outcome = .ok good → calls = [] ∧ result = .ok good.action := by
  rcases closing_of_trace (fun calls answer => trace_run_ask.mp) trace with ⟨_, closing, isResult⟩
  cases closing with
  | idle nothing =>
      refine ⟨List.forall_mem_nil _, ?_⟩
      rintro good _ rfl
      exact ⟨rfl, isResult⟩
  | wrote something answer =>
      refine ⟨?_, ?_⟩
      · intro exchange there
        rw [List.mem_singleton.mp there]
        exact ⟨patch, rfl⟩
      · intro good empty
        rw [something] at empty
        cases empty

/-- For every store, for all answers of servers, and wherever the deadline strikes: a pass asks
servers nothing unless it read its object, and the object's cluster as ready; where the cluster is
not ready it does nothing but read, and looks again after a while. Otherwise its calls are those of
the conversation that goes with the object, and without a plan they change no attributes. -/
theorem frontendCalls_of_trace {now : Instant}
    (trace : Trace (reconcileNamespace settings now key).run calls result) :
    Namespace.FrontendCalls settings key calls result := by
  dsimp only [reconcileNamespace] at trace
  rcases trace_run_bind.mp trace with ⟨_, after, found, rfl, asked, rest⟩ | ⟨error, asked, _⟩
  · rw [trace_run_ask.mp asked]
    cases found with
    | none =>
        have ended : after = [] ∧ result = .ok .awaitChange := rest
        rw [ended.1]
        refine Namespace.frontendCalls_of_unread ?_
        rintro held ⟨⟩
    | some held =>
        have rest : Trace (do
            let left ← namespaceBody settings now key held
            let patch := ObjectPatch.between held (left.1.record now left.2)
            let written ←
              if patch.isEmpty then pure (.ok ())
                else attempt (askStore (.patchNamespace key patch))
            conclude (Namespace.failureKey key) (settle left.2 written) : Fallible Action).run
            after result := rest
        rcases trace_run_bind.mp rest with ⟨inner, ending, left, rfl, body, last⟩ | ⟨_, body, _⟩
        · rcases trace_run_lift.mp body with ⟨_, body, ⟨⟩⟩
          rcases trace_ending last with ⟨writes, unwritten⟩
          cases inquiry_of_trace body with
          | unread reads unread =>
              have outline : Outline key held _ [] _ :=
                ⟨reads, List.forall_mem_nil _, ending, rfl, writes⟩
              refine outline.frontendCalls (.inl ⟨unread, rfl⟩) ?_
              intro cluster read
              exact absurd read (unread _)
          | @waiting cluster unready =>
              have empty := isEmpty_between_self held
              rcases unwritten (.requeue settings.pollInterval) empty rfl with ⟨rfl, rfl⟩
              have outline : Outline key held
                  (.answered (.store (.getCluster held.clusterKey)) (.ok (some cluster))) [] _ :=
                ⟨rfl, List.forall_mem_nil _, [], rfl, List.forall_mem_nil _⟩
              refine outline.frontendCalls (.inr ⟨some cluster, rfl, .unready unready⟩) ?_
              rintro _ ⟨⟩ _
              exact ⟨rfl, rfl⟩
          | @read cluster talk _ ready talks =>
              have outline : Outline key held
                  (.answered (.store (.getCluster held.clusterKey)) (.ok cluster)) talk _ :=
                ⟨rfl, fun _ => talks.isRemote, ending, rfl, writes⟩
              refine outline.frontendCalls (.inr ⟨cluster, rfl, talks⟩) ?_
              rintro found ⟨⟩ unready
              rw [ready found rfl] at unready
              cases unready
        · rcases trace_run_lift.mp body with ⟨_, _, ⟨⟩⟩
  · rw [trace_run_ask.mp asked]
    refine Namespace.frontendCalls_of_unread ?_
    rintro held ⟨⟩

end Program

/-- The namespace with an attribute of its own. -/
def Namespace.tagged : Namespace :=
  { payments with
    spec := { payments.spec with searchAttributes := .ofList [("Tier", "Keyword")] } }

/-- A cluster that is ready, and a server that knows the namespace with another attribute. -/
def Replies.known : Replies
  | .store (.getNamespace _) => .ok (some .tagged)
  | .store (.getCluster _) => .ok (some .prod)
  | .store (.patchNamespace _ _) => .ok ()
  | .store _ => .error (.serialization "unasked")
  | .connect _ => .ok ()
  | .server _ (.register request) =>
      .error ((ServerRequest.register request).failure .alreadyExists "there")
  | .server _ (.update _) => .ok ()
  | .server _ (.delete _) => .ok ()
  | .server _ (.listAttributes _) => .ok (.ofList [("Region", .text)])
  | .server _ (.addAttributes _ _) => .ok ()
  | .server _ (.removeAttributes _ _) => .ok ()
  | .close _ => .ok ()

theorem Program.frontendCalls_of_known :
    let pass := (reconcileNamespace {} default Namespace.tagged.key).run
    let calls := (follow .known pass).1
    Namespace.tagged.Talk (some .prod) (remoteCalls calls) ∧
      (remoteCalls calls).map Exchange.request =
        [.connect .prod, .server .prod (.register (.of .prod .tagged)),
          .server .prod (.update (.of .prod .tagged)), .server .prod (.listAttributes "payments"),
          .server .prod (.removeAttributes "payments" ["Region"]),
          .server .prod (.addAttributes "payments" (.ofList [("Tier", .keyword)])),
          .close .prod] := by
  have trace := trace_follow .known (reconcileNamespace {} default Namespace.tagged.key).run
  refine ⟨?_, rfl⟩
  refine (frontendCalls_of_trace trace).talks .tagged (some .prod) ?_ ?_
  · exact List.mem_of_getElem? (i := 0) rfl
  · exact List.mem_of_getElem? (i := 1) rfl

end ClusterOperator
