import ClusterOperator.SortedMap.Basic

/-!
# Look-ups in sorted maps

What each operation does to the look-ups of a map: `get?_insert`, `get?_erase`, `get?_filter`,
`get?_mapValues`, `get?_ofList`, `get?_overlay`, `get?_traverse`. The look-ups determine the map:
`ext_get?`.
-/

namespace ClusterOperator

namespace SortedMap

variable {κ α β ε : Type} [Ord κ] [DecidableEq κ] [Std.TransOrd κ] [Std.LawfulEqOrd κ]

omit [DecidableEq κ] [Std.TransOrd κ] in
theorem not_before_self (key : κ) : compare key key ≠ .lt := by
  simp [Std.compare_self]

omit [Std.TransOrd κ] [Std.LawfulEqOrd κ] in
@[simp] theorem get?_empty (key : κ) : (empty : SortedMap κ α).get? key = none := rfl

omit [Ord κ] [Std.TransOrd κ] [Std.LawfulEqOrd κ] in
theorem findEntry_eq_none_iff {key : κ} {entries : List (κ × α)} :
    findEntry key entries = none ↔ key ∉ entries.map Prod.fst := by
  induction entries with
  | nil => simp [findEntry]
  | cons entry rest ih =>
    obtain ⟨other, value⟩ := entry
    by_cases same : other = key
    · simp [findEntry, same]
    · simp only [findEntry, same, if_false, ih, List.map_cons, List.mem_cons, not_or]
      exact ⟨fun outside => ⟨Ne.symm same, outside⟩, And.right⟩

omit [Std.TransOrd κ] in
theorem findEntry_insertEntry (key other : κ) (value : α) (entries : List (κ × α)) :
    findEntry other (insertEntry key value entries) =
      if key = other then some value else findEntry other entries := by
  induction entries with
  | nil => simp [insertEntry, findEntry]
  | cons entry rest ih =>
    obtain ⟨held, kept⟩ := entry
    rw [insertEntry]
    split
    case h_1 => simp [findEntry]
    case h_2 same =>
      cases Std.LawfulEqCmp.eq_of_compare same
      by_cases here : key = other <;> simp [findEntry, here]
    case h_3 after =>
      have different : key ≠ held := by
        rintro rfl
        simp [Std.compare_self] at after
      by_cases here : held = other
      · subst here; simp [findEntry, different]
      · simp [findEntry, here, ih]

theorem get?_insert (map : SortedMap κ α) (key other : κ) (value : α) :
    (map.insert key value).get? other = if key = other then some value else map.get? other :=
  findEntry_insertEntry key other value map.entries

@[simp] theorem get?_insert_self (map : SortedMap κ α) (key : κ) (value : α) :
    (map.insert key value).get? key = some value := by
  simp [get?_insert]

omit [Std.TransOrd κ] in
theorem findEntry_filter {keep : κ → α → Bool} {key : κ} {entries : List (κ × α)}
    (sorted : Ascending (entries.map Prod.fst)) :
    findEntry key (entries.filter fun entry => keep entry.1 entry.2) =
      (findEntry key entries).filter (keep key) := by
  induction entries with
  | nil => rfl
  | cons entry rest ih =>
    obtain ⟨other, value⟩ := entry
    rw [List.map_cons, Ascending, List.pairwise_cons] at sorted
    have absent : other = key → findEntry key rest = none := fun same =>
      findEntry_eq_none_iff.mpr fun inside =>
        not_before_self key (same ▸ sorted.1 key inside)
    by_cases kept : keep other value
    · by_cases same : other = key
      · subst same; simp [findEntry, kept, Option.filter]
      · simp [findEntry, kept, same, ih sorted.2]
    · by_cases same : other = key
      · have tail := absent same
        subst same; simp [findEntry, kept, ih sorted.2, tail, Option.filter]
      · simp [findEntry, kept, same, ih sorted.2]

omit [Std.TransOrd κ] in
theorem get?_filter (keep : κ → α → Bool) (map : SortedMap κ α) (key : κ) :
    (map.filter keep).get? key = (map.get? key).filter (keep key) :=
  findEntry_filter map.sorted

omit [Std.TransOrd κ] in
theorem get?_erase (map : SortedMap κ α) (key other : κ) :
    (map.erase key).get? other = if key = other then none else map.get? other := by
  rw [erase, get?_filter]
  cases map.get? other with
  | none => simp
  | some value => by_cases same : other = key <;> simp [Option.filter, same, Ne.symm]

omit [Std.TransOrd κ] [Std.LawfulEqOrd κ] in
theorem get?_mapValues (change : κ → α → β) (map : SortedMap κ α) (key : κ) :
    (map.mapValues change).get? key = (map.get? key).map (change key) := by
  dsimp only [get?, mapValues]
  induction map.entries with
  | nil => rfl
  | cons entry rest ih =>
    by_cases same : entry.1 = key
    · subst same; simp [findEntry]
    · simp [findEntry, same, ih]

omit [Ord κ] [Std.TransOrd κ] [Std.LawfulEqOrd κ] in
theorem findEntry_append (key : κ) (left right : List (κ × α)) :
    findEntry key (left ++ right) = (findEntry key left).or (findEntry key right) := by
  induction left with
  | nil => simp [findEntry]
  | cons head tail ih => by_cases same : head.1 = key <;> simp [findEntry, same, ih]

theorem get?_foldl_insert (entries : List (κ × α)) (map : SortedMap κ α) (key : κ) :
    (entries.foldl (fun map entry => map.insert entry.1 entry.2) map).get? key =
      (findEntry key entries.reverse).or (map.get? key) := by
  induction entries generalizing map with
  | nil => simp [findEntry]
  | cons entry rest ih =>
    rw [List.foldl_cons, ih, get?_insert, List.reverse_cons, findEntry_append, Option.or_assoc]
    by_cases same : entry.1 = key <;> simp [findEntry, same]

omit [Ord κ] [Std.TransOrd κ] [Std.LawfulEqOrd κ] in
theorem findEntry_eq_some_iff_mem {key : κ} {value : α} {entries : List (κ × α)}
    (nodup : (entries.map Prod.fst).Nodup) :
    findEntry key entries = some value ↔ (key, value) ∈ entries := by
  induction entries with
  | nil => simp [findEntry]
  | cons entry rest ih =>
    obtain ⟨other, held⟩ := entry
    rw [List.map_cons, List.nodup_cons] at nodup
    by_cases same : other = key
    · subst same
      have absent : ∀ value, (other, value) ∉ rest := fun _ inside =>
        nodup.1 (List.mem_map.mpr ⟨_, inside, rfl⟩)
      simp [findEntry, absent, eq_comm]
    · simp [findEntry, same, ih nodup.2, Ne.symm same]

omit [Ord κ] [Std.TransOrd κ] [Std.LawfulEqOrd κ] in
/-- Where keys differ, their order does not matter. -/
theorem findEntry_reverse {key : κ} {entries : List (κ × α)}
    (nodup : (entries.map Prod.fst).Nodup) :
    findEntry key entries.reverse = findEntry key entries := by
  have reversed : (entries.reverse.map Prod.fst).Nodup := by
    rw [List.map_reverse]
    exact List.pairwise_reverse.mpr (nodup.imp Ne.symm)
  apply Option.ext
  intro value
  rw [findEntry_eq_some_iff_mem nodup, findEntry_eq_some_iff_mem reversed, List.mem_reverse]

theorem get?_ofList {entries : List (κ × α)} (nodup : (entries.map Prod.fst).Nodup) (key : κ) :
    (ofList entries).get? key = findEntry key entries := by
  rw [ofList, get?_foldl_insert, findEntry_reverse nodup, get?_empty, Option.or_none]

omit [DecidableEq κ] [Std.TransOrd κ] in
theorem nodup_keys (map : SortedMap κ α) : (map.entries.map Prod.fst).Nodup :=
  map.sorted.imp fun {left right} before (same : left = right) =>
    not_before_self right (same ▸ before)

omit [DecidableEq κ] [Std.TransOrd κ] in
theorem nodup_entries (map : SortedMap κ α) : map.entries.Nodup :=
  (List.pairwise_map.mp map.nodup_keys).imp fun different => mt (congrArg Prod.fst) different

omit [Std.TransOrd κ] in
theorem get?_eq_some_iff_mem {map : SortedMap κ α} {key : κ} {value : α} :
    map.get? key = some value ↔ (key, value) ∈ map.entries :=
  findEntry_eq_some_iff_mem map.nodup_keys

omit [Std.TransOrd κ] in
/-- What is stored stands before an entry, is that entry, or stands behind it. -/
theorem mem_or_of_split {map : SortedMap κ α} {key other : κ} {value held : α}
    {front back : List (κ × α)} (split : map.entries = front ++ (key, value) :: back)
    (there : map.get? other = some held) :
    (other, held) ∈ front ∨ (other = key ∧ held = value) ∨ compare key other = .lt := by
  have ascending : map.entries.Pairwise fun left right => compare left.1 right.1 = .lt :=
    List.pairwise_map.mp map.sorted
  have inside := get?_eq_some_iff_mem.mp there
  rw [split] at ascending inside
  rcases List.mem_append.mp inside with before | inside
  · exact .inl before
  rcases List.mem_cons.mp inside with same | behind
  · exact .inr (.inl (Prod.mk.inj same))
  · have later := (List.pairwise_append.mp ascending).2.1
    exact .inr (.inr ((List.pairwise_cons.mp later).1 _ behind))

theorem get?_overlay (lower upper : SortedMap κ α) (key : κ) :
    (lower.overlay upper).get? key = (upper.get? key).or (lower.get? key) := by
  rw [overlay, get?_foldl_insert, findEntry_reverse upper.nodup_keys]
  rfl

/-- A map is determined by its look-ups. -/
theorem ext_get? {left right : SortedMap κ α} (same : ∀ key, left.get? key = right.get? key) :
    left = right := by
  apply ext_entries
  have perm : left.entries.Perm right.entries :=
    (List.perm_ext_iff_of_nodup left.nodup_entries right.nodup_entries).mpr fun entry => by
        rw [← Prod.eta entry, ← get?_eq_some_iff_mem, ← get?_eq_some_iff_mem, same]
  have ascending : ∀ {map : SortedMap κ α},
      map.entries.Pairwise fun left right => compare left.1 right.1 = .lt := fun {map} =>
    List.pairwise_map.mp map.sorted
  exact perm.eq_of_pairwise
    (fun earlier later _ _ before after =>
      absurd (Std.TransCmp.lt_trans (before : compare earlier.1 later.1 = .lt) after)
        (not_before_self earlier.1))
    ascending ascending

/-- A value that is stored already is stored again. -/
theorem insert_get? {map : SortedMap κ α} {key : κ} {value : α}
    (there : map.get? key = some value) : map.insert key value = map := by
  apply ext_get?
  intro other
  rw [get?_insert]
  split
  · rw [← ‹key = other›, there]
  · rfl

/-- Of two values that are stored under one key the second one counts. -/
theorem insert_insert (map : SortedMap κ α) (key : κ) (first second : α) :
    (map.insert key first).insert key second = map.insert key second := by
  apply ext_get?
  intro other
  simp only [get?_insert]
  split <;> rfl

omit [Std.TransOrd κ] [Std.LawfulEqOrd κ] in
theorem mem_keys {map : SortedMap κ α} {key : κ} : key ∈ map.keys ↔ map.contains key := by
  have absent : map.get? key = none ↔ key ∉ map.keys := findEntry_eq_none_iff
  simp only [contains, Option.isSome_iff_ne_none, ne_eq, absent, Decidable.not_not]

omit [DecidableEq κ] [Std.TransOrd κ] [Std.LawfulEqOrd κ] in
theorem isEmpty_iff {map : SortedMap κ α} : map.isEmpty ↔ map = ∅ := by
  constructor
  · intro bare
    exact ext_entries (List.isEmpty_iff.mp bare)
  · rintro rfl
    rfl

section Traverse

variable {κ α β ε : Type} [Ord κ] {change : κ → α → Except ε β}

omit [Ord κ] in
theorem findEntry_traverseEntries [DecidableEq κ] {entries : List (κ × α)}
    {changed : List (κ × β)} (success : traverseEntries change entries = .ok changed) (key : κ) :
    findEntry key changed = (findEntry key entries).bind fun value =>
      (change key value).toOption := by
  induction entries generalizing changed with
  | nil =>
      cases success
      rfl
  | cons entry rest ih =>
      rcases entry with ⟨other, value⟩
      simp only [traverseEntries] at success
      split at success
      · cases success
      · split at success
        · cases success
        · cases success
          by_cases same : other = key
          · subst same
            simp [findEntry, ‹change other value = _›, Except.toOption]
          · simp [findEntry, same, ih ‹_›]

omit [Ord κ] in
theorem split_of_traverseEntries_error {entries : List (κ × α)} {problem : ε}
    (failure : traverseEntries change entries = .error problem) :
    ∃ front key value back, entries = front ++ (key, value) :: back ∧
      change key value = .error problem ∧
      ∀ entry ∈ front, ∃ changed, change entry.1 entry.2 = .ok changed := by
  induction entries with
  | nil => cases failure
  | cons entry rest ih =>
      rcases entry with ⟨key, value⟩
      simp only [traverseEntries] at failure
      split at failure
      · cases failure
        exact ⟨[], key, value, rest, rfl, ‹_›, List.forall_mem_nil _⟩
      · rename_i changed success
        split at failure
        · cases failure
          rcases ih ‹_› with ⟨front, other, held, back, same, failed, passed⟩
          refine ⟨(key, value) :: front, other, held, back, ?_, failed, ?_⟩
          · rw [same, List.cons_append]
          · exact List.forall_mem_cons.mpr ⟨⟨changed, success⟩, passed⟩
        · cases failure

theorem get?_traverse [DecidableEq κ] {map : SortedMap κ α} {changed : SortedMap κ β}
    (success : map.traverse change = .ok changed) (key : κ) :
    changed.get? key = (map.get? key).bind fun value => (change key value).toOption := by
  unfold traverse at success
  split at success
  · cases success
  · cases success
    exact findEntry_traverseEntries ‹_› key

/-- A traversal stops at the first entry at which it fails. -/
theorem split_of_traverse_error {map : SortedMap κ α} {problem : ε}
    (failure : map.traverse change = .error problem) :
    ∃ front key value back, map.entries = front ++ (key, value) :: back ∧
      change key value = .error problem ∧
      ∀ entry ∈ front, ∃ changed, change entry.1 entry.2 = .ok changed := by
  unfold traverse at failure
  split at failure
  · cases failure
    exact split_of_traverseEntries_error ‹_›
  · cases failure

end Traverse

end SortedMap

end ClusterOperator
