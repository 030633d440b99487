import ClusterOperator.Proofs.Index.Basic
import ClusterOperator.Proofs.Run.Keeping

/-!
# Passes keep the index up to date

A pass over a namespace first looks for its object and puts the index right about it, before it can
fail. Whatever the index said in the beginning, it agrees with the store about a namespace once a
pass over that has looked, and other passes leave it so.
-/

namespace ClusterOperator

/-- Every namespace stands under its own key. -/
def Store.Keyed (store : Store) : Prop :=
  ∀ key held, store.namespaces.get? key = some held → held.key = key

/-- The index says of a namespace what the store says. -/
def DependencyIndex.Agrees (store : Store) (index : DependencyIndex) (key : ObjectKey) : Prop :=
  index.clusterOf.get? key = (store.namespaces.get? key).map Namespace.clusterKey

namespace Note

/-- What is written down about namespaces is true of what is stored. -/
inductive Fits (store : Store) : Note → Prop
  | listed {ns held : Namespace} (stored : store.namespaces.get? ns.key = some held)
      (same : held.clusterKey = ns.clusterKey) : Fits store (.listed ns)
  | unlisted {key : ObjectKey} (absent : store.namespaces.get? key = none) :
      Fits store (.unlisted key)
  | settled (key : String) : Fits store (.settled key)

variable {store : Store} {entry : Note} {state : OperatorState} {key : ObjectKey}
  {found : Option Namespace}

theorem fits_of_isSettled (settled : entry.isSettled) : entry.Fits store := by
  cases entry with
  | listed ns => cases settled
  | unlisted key => cases settled
  | settled key => exact .settled key

/-- What is true leaves the index right where it is right. -/
theorem Fits.agrees (fits : entry.Fits store) (agrees : state.index.Agrees store key) :
    (state.take entry).index.Agrees store key := by
  unfold DependencyIndex.Agrees at agrees ⊢
  cases fits with
  | @listed ns held stored same =>
      dsimp only [OperatorState.take]
      rw [DependencyIndex.clusterOf_upsert, SortedMap.get?_insert]
      split
      · rename_i isIt
        rw [← isIt, stored, Option.map_some, same]
      · exact agrees
  | @unlisted other absent =>
      dsimp only [OperatorState.take]
      rw [DependencyIndex.clusterOf_remove, SortedMap.get?_erase]
      split
      · rename_i isIt
        rw [← isIt, absent]
        rfl
      · exact agrees
  | settled failureKey => exact agrees

theorem Fits.agrees_found (fits : (Note.found key found).Fits store)
    (named : ∀ held, found = some held → held.key = key) (state : OperatorState) :
    (state.take (Note.found key found)).index.Agrees store key := by
  unfold DependencyIndex.Agrees
  cases found with
  | none =>
      cases fits with
      | unlisted absent =>
          dsimp only [OperatorState.take, Note.found]
          rw [DependencyIndex.clusterOf_remove, SortedMap.get?_erase, if_pos rfl, absent]
          rfl
  | some held =>
      cases fits with
      | listed stored same =>
          rw [named held rfl] at stored
          dsimp only [OperatorState.take, Note.found]
          rw [DependencyIndex.clusterOf_upsert, named held rfl, SortedMap.get?_insert_self, stored,
            Option.map_some, same]

theorem Fits.unlisted_of_absent (fits : entry.Fits store)
    (absent : store.namespaces.get? key = none) (unlisted : state.index.clusterOf.get? key = none) :
    (state.take entry).index.clusterOf.get? key = none := by
  have agrees : state.index.Agrees store key := by
    rw [DependencyIndex.Agrees, unlisted, absent]
    rfl
  rw [fits.agrees agrees, absent]
  rfl

theorem consistent_take (consistent : state.index.Consistent) :
    (state.take entry).index.Consistent := by
  cases entry with
  | listed ns => exact consistent.upsert ns
  | unlisted key => exact consistent.remove key
  | settled key => exact consistent

end Note

/-! ### Steps -/

/-- No namespace leaves the store or comes to name another cluster. One may be created, but not
while a pass that has not found it is about to write that down. -/
structure Situation.Holding (before : Situation) (event : Event) (after : Situation) : Prop where
  stays : ∀ key held, before.store.namespaces.get? key = some held →
    ∃ later, after.store.namespaces.get? key = some later ∧ later.clusterKey = held.clusterKey
  created : ∀ key held, before.store.namespaces.get? key = none →
    after.store.namespaces.get? key = some held →
      ∀ course ∈ after.courses, ∀ rest, course.rest ≠ .note (.unlisted key) rest

/-- The same, and each namespace stands under its own key. -/
structure Situation.HoldingKeyed (before : Situation) (event : Event) (after : Situation) : Prop
    extends before.Holding event after where
  keyed : after.store.Keyed

/-- What a pass has found is no surprise: what was not found was not there in the beginning, and
what was found is still there. -/
def Seen (first store : Store) (key : ObjectKey) : Option Namespace → Prop
  | none => first.namespaces.get? key = none
  | some _ => ∃ held, store.namespaces.get? key = some held

/-- How far a pass has come with the index: it has not looked yet, or is about to write down what it
has found, or has done so. -/
inductive Course.Upkeep (first store : Store) (index : DependencyIndex) (course : Course) : Prop
  | cluster {key : ObjectKey} (about : course.subject = .cluster key)
      (silent : course.rest.Notes (·.isSettled))
  | fresh {key : ObjectKey} {next : Except Error (Option Namespace) → Program (Except Error Action)}
      (about : course.subject = .ns key) (untaken : course.history = [])
      (todo : course.rest = .call (.store (.getNamespace key)) next)
      (failed : ∀ error, (next (.error error)).Notes (·.isSettled))
      (notes : ∀ found, ∃ rest, next (.ok found) = .note (Note.found key found) rest ∧
        rest.Notes (·.isSettled))
  | failed {key : ObjectKey} {error : Error} (about : course.subject = .ns key)
      (read : course.history.getLast? =
        some (.answered (.store (.getNamespace key)) (.error error)))
      (silent : course.rest.Notes (·.isSettled))
  | found {key : ObjectKey} {found : Option Namespace} {rest : Program (Except Error Action)}
      (about : course.subject = .ns key)
      (read : course.history.getLast? = some (.answered (.store (.getNamespace key)) (.ok found)))
      (todo : course.rest = .note (Note.found key found) rest)
      (silent : rest.Notes (·.isSettled)) (named : ∀ held, found = some held → held.key = key)
      (fits : (Note.found key found).Fits store) (seen : Seen first store key found)
  | noted {key : ObjectKey} {found : Option Namespace} (about : course.subject = .ns key)
      (read : course.history.getLast? = some (.answered (.store (.getNamespace key)) (.ok found)))
      (silent : course.rest.Notes (·.isSettled)) (seen : Seen first store key found)
      (agrees : index.Agrees store key ∨
        found = none ∧ ∃ held, store.namespaces.get? key = some held)

namespace Course

variable {first store later : Store} {state : OperatorState} {course : Course}

theorem upkeep_of_begun {settings : Settings} {now : Instant} (untaken : course.history = [])
    (start : course.rest = course.subject.program settings now) :
    course.Upkeep first store state.index := by
  cases about : course.subject with
  | cluster key =>
      rw [about] at start
      refine .cluster about ?_
      rw [start]
      exact Program.notes_reconcileCluster settings now key
  | ns key =>
      rw [about] at start
      rcases Program.notes_reconcileNamespace settings now key with ⟨next, begins, failed, notes⟩
      exact .fresh about untaken (start.trans begins) failed notes

theorem Upkeep.fits {entry : Note} {rest : Program (Except Error Action)}
    (upkeep : course.Upkeep first store state.index) (todo : course.rest = .note entry rest) :
    entry.Fits store := by
  have settled (silent : course.rest.Notes (·.isSettled)) : entry.Fits store := by
    rw [todo] at silent
    exact Note.fits_of_isSettled silent.1
  cases upkeep with
  | cluster about silent => exact settled silent
  | fresh about untaken calls failed notes => cases todo.symm.trans calls
  | failed about read silent => exact settled silent
  | found about read due silent named fits seen =>
      cases todo.symm.trans due
      exact fits
  | noted about read silent seen agrees => exact settled silent

/-- What one pass writes down is no matter to another. -/
theorem Upkeep.take {entry : Note} (upkeep : course.Upkeep first store state.index)
    (fits : entry.Fits store) : course.Upkeep first store (state.take entry).index := by
  cases upkeep with
  | cluster about silent => exact .cluster about silent
  | fresh about untaken todo failed notes => exact .fresh about untaken todo failed notes
  | failed about read silent => exact .failed about read silent
  | found about read todo silent named fits seen =>
      exact .found about read todo silent named fits seen
  | noted about read silent seen agrees =>
      exact .noted about read silent seen (agrees.imp fits.agrees id)

/-- Once it has written that down, the index is right about the namespace. -/
theorem Upkeep.note {entry : Note} {rest : Program (Except Error Action)}
    (upkeep : course.Upkeep first store state.index) (todo : course.rest = .note entry rest) :
    ({ course with rest } : Course).Upkeep first store (state.take entry).index := by
  have fits := upkeep.fits todo
  have silences (silent : course.rest.Notes (·.isSettled)) : rest.Notes (·.isSettled) := by
    rw [todo] at silent
    exact silent.2
  cases upkeep with
  | cluster about silent => exact .cluster about (silences silent)
  | fresh about untaken calls failed notes => cases todo.symm.trans calls
  | failed about read silent => exact .failed about read (silences silent)
  | found about read due silent named fits seen =>
      cases todo.symm.trans due
      exact .noted about read silent seen (.inl (fits.agrees_found named state))
  | noted about read silent seen agrees =>
      exact .noted about read (silences silent) seen (agrees.imp fits.agrees id)

theorem Takes.looks {after : Course} {turn : Turn} {key : ObjectKey}
    {next : Except Error (Option Namespace) → Program (Except Error Action)}
    (takes : course.Takes store turn after later) (untaken : course.history = [])
    (todo : course.rest = .call (.store (.getNamespace key)) next) :
    ∃ answer, after.rest = next answer ∧
      after.history = [.answered (.store (.getNamespace key)) answer] ∧
      ∀ found, answer = .ok found → found = store.namespaces.get? key := by
  cases takes with
  | note due => cases todo.symm.trans due
  | answer awaits answered =>
      rw [todo] at awaits
      cases awaits
      cases answered
      refine ⟨_, rfl, by rw [untaken], ?_⟩
      rintro found ⟨⟩
      rfl
  | fault awaits error attempted =>
      rw [todo] at awaits
      cases awaits
      refine ⟨_, rfl, by rw [untaken], ?_⟩
      rintro found ⟨⟩
  | cut due attempted => cases todo.symm.trans due

/-- A pass that looks for its namespace finds what is in the store. -/
theorem Upkeep.takes {after : Course} {turn : Turn} {index : DependencyIndex}
    (upkeep : course.Upkeep first store index) (keyed : store.Keyed)
    (gone : ∀ key, store.namespaces.get? key = none → first.namespaces.get? key = none)
    (takes : course.Takes store turn after later) (asks : turn ≠ .noted) :
    after.Upkeep first store index := by
  have about (subject : Subject) (about : course.subject = subject) : after.subject = subject :=
    takes.subject_eq.trans about
  cases upkeep with
  | cluster isCluster silent => exact .cluster (about _ isCluster) (takes.notes silent)
  | fresh isNamespace untaken todo failed notes =>
      rename_i key next
      rcases takes.looks untaken todo with ⟨answer, rest, history, isAnswer⟩
      cases answer with
      | error error =>
          refine .failed (about _ isNamespace) (by rw [history]; rfl) ?_
          rw [rest]
          exact failed error
      | ok found =>
          rcases notes found with ⟨later, due, silent⟩
          have isFound := isAnswer found rfl
          refine .found (about _ isNamespace) (by rw [history]; rfl) (rest.trans due) silent
            ?_ ?_ ?_
          · rintro held rfl
            exact keyed key held isFound.symm
          · cases found with
            | none => exact .unlisted isFound.symm
            | some held =>
                have own := keyed key held isFound.symm
                refine .listed ?_ rfl
                rw [own]
                exact isFound.symm
          · cases found with
            | none => exact gone key isFound.symm
            | some held => exact ⟨held, isFound.symm⟩
  | failed isNamespace read silent =>
      exact .failed (about _ isNamespace) (takes.getLast? read) (takes.notes silent)
  | found isNamespace read todo silent named fits seen =>
      cases takes with
      | note due => exact absurd rfl asks
      | answer awaits answered =>
          rw [todo] at awaits
          cases awaits
      | fault awaits error attempted =>
          rw [todo] at awaits
          cases awaits
      | cut due attempted => cases todo.symm.trans due
  | noted isNamespace read silent seen agrees =>
      exact .noted (about _ isNamespace) (takes.getLast? read) (takes.notes silent) seen agrees

/-- What is true, and right, stays so as long as namespaces stay where they are. -/
theorem Upkeep.holding {before after : Situation} {event : Event} {index : DependencyIndex}
    (upkeep : course.Upkeep first before.store index) (holding : before.Holding event after)
    (there : course ∈ after.courses) : course.Upkeep first after.store index := by
  have stays {key : ObjectKey} : (∃ held, before.store.namespaces.get? key = some held) →
      ∃ held, after.store.namespaces.get? key = some held := by
    rintro ⟨held, stored⟩
    rcases holding.stays key held stored with ⟨later, isLater, _⟩
    exact ⟨later, isLater⟩
  have sees {key : ObjectKey} {found : Option Namespace}
      (seen : Seen first before.store key found) : Seen first after.store key found := by
    cases found with
    | none => exact seen
    | some held => exact stays seen
  cases upkeep with
  | cluster about silent => exact .cluster about silent
  | fresh about untaken todo failed notes => exact .fresh about untaken todo failed notes
  | failed about read silent => exact .failed about read silent
  | found about read todo silent named fits seen =>
      refine .found about read todo silent named ?_ (sees seen)
      generalize entered : Note.found _ _ = entry at fits todo
      cases fits with
      | listed stored same =>
          rcases holding.stays _ _ stored with ⟨later, isLater, still⟩
          exact .listed isLater (still.trans same)
      | @unlisted other absent =>
          -- Nobody creates a namespace between a look that has not found it and the note of that.
          cases isStored : after.store.namespaces.get? other with
          | none => exact .unlisted isStored
          | some held =>
              exact absurd todo (holding.created other held absent isStored course there _)
      | settled failureKey => exact .settled failureKey
  | noted about read silent seen agrees =>
      -- The index stays right about a namespace that is there. One that was not found may come to
      -- be there, and then another pass must look for it.
      rename_i key found
      refine .noted about read silent (sees seen) ?_
      rcases agrees with agrees | ⟨rfl, stored⟩
      · cases stored : before.store.namespaces.get? key with
        | some held =>
            rcases holding.stays key held stored with ⟨later, isLater, same⟩
            left
            rw [DependencyIndex.Agrees, agrees, stored, isLater, Option.map_some, Option.map_some,
              same]
        | none =>
            cases isStored : after.store.namespaces.get? key with
            | none =>
                left
                rw [DependencyIndex.Agrees, agrees, stored, isStored]
            | some held =>
                cases found with
                | none => exact .inr ⟨rfl, held, rfl⟩
                | some earlier =>
                    rcases seen with ⟨still, isStill⟩
                    cases stored.symm.trans isStill
      · exact .inr ⟨rfl, stays stored⟩

end Course

end ClusterOperator
