import ClusterOperator.Proofs.Store.Change

/-!
# Versions

A version is handed out once. So an object that somebody has read is told apart by its version from
everything that is stored under the same key later, also after the object was deleted and created
again: `Pinned` says so of one object, and holds from the moment of the reading on.
-/

namespace ClusterOperator

theorem version_eq_of_text_eq {left right : Nat} (same : toString left = toString right) :
    left = right := by
  rw [Nat.toString_eq_ofList_toDigits, Nat.toString_eq_ofList_toDigits, String.ofList_inj] at same
  rw [← Nat.ofDigitChars_toDigits (b := 10) (n := left) (by decide) (by decide), same,
    Nat.ofDigitChars_toDigits (by decide) (by decide)]

section Tables

variable {κ α : Type} [Ord κ] [DecidableEq κ] {metadata : α → Metadata} {low middle high : Nat}
  {table later latest : SortedMap κ α}

/-- Every entry carries a version that was handed out. -/
def Stamped (metadata : α → Metadata) (high : Nat) (table : SortedMap κ α) : Prop :=
  ∀ key value, table.get? key = some value →
    ∃ version ≤ high, (metadata value).resourceVersion = some (toString version)

/-- No two entries carry the same version. -/
def Apart (metadata : α → Metadata) (table : SortedMap κ α) : Prop :=
  ∀ left right value other, table.get? left = some value → table.get? right = some other →
    (metadata value).resourceVersion = (metadata other).resourceVersion → left = right

/-- Every entry of the later table was there before or carries a version handed out since. -/
def Renewed (metadata : α → Metadata) (low high : Nat) (table later : SortedMap κ α) : Prop :=
  ∀ key value, later.get? key = some value →
    table.get? key = some value ∨
      ∃ version, low < version ∧ version ≤ high ∧
        (metadata value).resourceVersion = some (toString version)

/-- An object whose version is carried by no other content under its key, now and later on. -/
def Pinned (metadata : α → Metadata) (high : Nat) (table : SortedMap κ α) (key : κ) (held : α) :
    Prop :=
  (∃ version ≤ high, (metadata held).resourceVersion = some (toString version)) ∧
    ∀ value, table.get? key = some value →
      (metadata value).resourceVersion = (metadata held).resourceVersion → value = held

/-- What is read from a table is pinned. -/
theorem Stamped.pinned {key : κ} {held : α} (stamped : Stamped metadata high table)
    (there : table.get? key = some held) : Pinned metadata high table key held := by
  refine ⟨stamped key held there, fun value stored _ => ?_⟩
  rw [there] at stored
  cases stored
  rfl

/-- An entry in a version that is older than the table was there all the time. -/
theorem Renewed.get?_of_older {key : κ} {held : α} {version : Nat}
    (renewed : Renewed metadata low high table later) (older : version ≤ low)
    (carries : (metadata held).resourceVersion = some (toString version))
    (there : later.get? key = some held) : table.get? key = some held := by
  rcases renewed key held there with before | ⟨newer, fresh, _, same⟩
  · exact before
  · rw [carries, Option.some_inj] at same
    have := version_eq_of_text_eq same
    omega

theorem Pinned.renewed {key : κ} {held : α} (pinned : Pinned metadata low table key held)
    (le : low ≤ high) (renewed : Renewed metadata low high table later) :
    Pinned metadata high later key held := by
  rcases pinned with ⟨⟨version, handedOut, carried⟩, alone⟩
  refine ⟨⟨version, Nat.le_trans handedOut le, carried⟩, fun value stored same => ?_⟩
  have carries := same.trans carried
  exact alone value (renewed.get?_of_older handedOut carries stored) same

theorem Renewed.stamped (renewed : Renewed metadata low high table later) (le : low ≤ high)
    (stamped : Stamped metadata low table) : Stamped metadata high later := by
  intro key value there
  rcases renewed key value there with before | ⟨version, _, handedOut, carries⟩
  · rcases stamped key value before with ⟨version, handedOut, carries⟩
    exact ⟨version, Nat.le_trans handedOut le, carries⟩
  · exact ⟨version, handedOut, carries⟩

theorem Renewed.trans (first : Renewed metadata low middle table later)
    (second : Renewed metadata middle high later latest) (lowMiddle : low ≤ middle)
    (middleHigh : middle ≤ high) : Renewed metadata low high table latest := by
  intro key value there
  rcases second key value there with before | ⟨version, fresh, handedOut, carries⟩
  · rcases first key value before with start | ⟨version, fresh, handedOut, carries⟩
    · exact .inl start
    · exact .inr ⟨version, fresh, Nat.le_trans handedOut middleHigh, carries⟩
  · exact .inr ⟨version, Nat.lt_of_le_of_lt lowMiddle fresh, handedOut, carries⟩

theorem Stamped.mapValues {restate : κ → α → α} (le : low ≤ high)
    (same : ∀ key value, metadata (restate key value) = metadata value)
    (stamped : Stamped metadata low table) : Stamped metadata high (table.mapValues restate) := by
  intro key value there
  rw [SortedMap.get?_mapValues, Option.map_eq_some_iff] at there
  rcases there with ⟨held, before, rfl⟩
  rcases stamped key held before with ⟨version, handedOut, carries⟩
  exact ⟨version, Nat.le_trans handedOut le, (congrArg _ (same key held)).trans carries⟩

theorem Apart.mapValues {restate : κ → α → α}
    (same : ∀ key value, metadata (restate key value) = metadata value)
    (apart : Apart metadata table) : Apart metadata (table.mapValues restate) := by
  intro left right value other thereLeft thereRight sameVersion
  rw [SortedMap.get?_mapValues, Option.map_eq_some_iff] at thereLeft thereRight
  rcases thereLeft with ⟨_, beforeLeft, rfl⟩
  rcases thereRight with ⟨_, beforeRight, rfl⟩
  rw [same, same] at sameVersion
  exact apart left right _ _ beforeLeft beforeRight sameVersion

variable [Std.TransOrd κ] [Std.LawfulEqOrd κ]

theorem Rewritten.renewed (rewritten : Rewritten metadata low high table later) :
    Renewed metadata low high table later := by
  intro key value there
  cases rewritten with
  | kept => exact .inl there
  | erased erased =>
      rw [SortedMap.get?_erase] at there
      split at there
      · cases there
      · exact .inl there
  | stored stored new fresh stamped =>
      rw [SortedMap.get?_insert] at there
      split at there
      · cases there
        exact .inr ⟨high, fresh, Nat.le_refl _, stamped⟩
      · exact .inl there

/-- The one entry that an operation stores carries another version than all the others. -/
theorem Rewritten.apart (rewritten : Rewritten metadata low high table later)
    (stamped : Stamped metadata low table) (apart : Apart metadata table) :
    Apart metadata later := by
  cases rewritten with
  | kept => exact apart
  | erased erased =>
      intro left right value other thereLeft thereRight
      rw [SortedMap.get?_erase] at thereLeft thereRight
      split at thereLeft
      · cases thereLeft
      · split at thereRight
        · cases thereRight
        · exact apart left right value other thereLeft thereRight
  | stored stored new fresh stampedNew =>
      have older (key : κ) (value : α) (there : table.get? key = some value) :
          (metadata value).resourceVersion ≠ some (toString high) := by
        intro same
        rcases stamped key value there with ⟨version, handedOut, carries⟩
        rw [carries, Option.some_inj] at same
        have := version_eq_of_text_eq same
        omega
      intro left right value other thereLeft thereRight same
      rw [SortedMap.get?_insert] at thereLeft thereRight
      split at thereLeft <;> split at thereRight
      · exact (‹stored = left›).symm.trans ‹stored = right›
      · cases thereLeft
        exact absurd (same.symm.trans stampedNew) (older right other thereRight)
      · cases thereRight
        exact absurd (same.trans stampedNew) (older left value thereLeft)
      · exact apart left right value other thereLeft thereRight same

end Tables

namespace Store

/-- What holds of the versions in every store that is ever reached. -/
structure Versioned (store : Store) : Prop where
  clusters : Stamped Resource.metadata store.version store.clusters
  namespaces : Stamped Resource.metadata store.version store.namespaces
  children : Stamped Child.metadata store.version store.children
  childrenApart : Apart Child.metadata store.children

/-- A later store as far as versions tell: custom resources do not change under their versions. -/
structure Advances (store later : Store) : Prop where
  version_le : store.version ≤ later.version
  clusters : Renewed Resource.metadata store.version later.version store.clusters later.clusters
  namespaces :
    Renewed Resource.metadata store.version later.version store.namespaces later.namespaces

theorem Progress.advances {store later : Store} (progress : Progress store later) :
    Advances store later :=
  ⟨progress.version_le, progress.clusters.renewed, progress.namespaces.renewed⟩

theorem Advances.refl (store : Store) : Advances store store :=
  (Progress.refl store).advances

theorem Advances.trans {store later latest : Store} (first : Advances store later)
    (second : Advances later latest) : Advances store latest where
  version_le := Nat.le_trans first.version_le second.version_le
  clusters := first.clusters.trans second.clusters first.version_le second.version_le
  namespaces := first.namespaces.trans second.namespaces first.version_le second.version_le

theorem versioned_empty : Versioned {} where
  clusters := fun _ _ there => nomatch there
  namespaces := fun _ _ there => nomatch there
  children := fun _ _ there => nomatch there
  childrenApart := fun _ _ _ _ there => nomatch there

theorem Progress.versioned {store later : Store} (progress : Progress store later)
    (versioned : Versioned store) : Versioned later where
  clusters := progress.clusters.renewed.stamped progress.version_le versioned.clusters
  namespaces := progress.namespaces.renewed.stamped progress.version_le versioned.namespaces
  children := by
    rcases progress.children with rewritten | ⟨restate, same, restated⟩
    · exact rewritten.renewed.stamped progress.version_le versioned.children
    · rw [restated]
      exact versioned.children.mapValues progress.version_le same
  childrenApart := by
    rcases progress.children with rewritten | ⟨restate, same, restated⟩
    · exact rewritten.apart versioned.children versioned.childrenApart
    · rw [restated]
      exact versioned.childrenApart.mapValues same

end Store

end ClusterOperator
