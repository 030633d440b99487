/-!
# Sorted maps

Finite maps whose entries stand in strictly ascending key order. The order is part of the type, so
two maps that answer every look-up alike are the same value, in whatever order they were filled.

`SortedMap.get?` is the view of a map; `SortedMap.Lemmas` says what each operation does to it.
-/

namespace ClusterOperator

/-- Keys stand in strictly ascending order. -/
abbrev Ascending {κ : Type} [Ord κ] (keys : List κ) : Prop :=
  keys.Pairwise fun earlier later => compare earlier later = .lt

/-- Entries in strictly ascending key order, hence with at most one entry for a key. -/
structure SortedMap (κ α : Type) [Ord κ] where
  entries : List (κ × α)
  sorted : Ascending (entries.map Prod.fst)

namespace SortedMap

variable {κ α β ε : Type} [Ord κ]

/-- The map without entries. -/
def empty : SortedMap κ α := ⟨[], .nil⟩

instance : EmptyCollection (SortedMap κ α) := ⟨empty⟩

instance : Inhabited (SortedMap κ α) := ⟨empty⟩

instance [DecidableEq κ] [DecidableEq α] : DecidableEq (SortedMap κ α) := fun left right =>
  if same : left.entries = right.entries then
    .isTrue (by cases left; cases right; cases same; rfl)
  else
    .isFalse fun equal => same (equal ▸ rfl)

theorem ext_entries {left right : SortedMap κ α} (same : left.entries = right.entries) :
    left = right := by
  cases left; cases right; cases same; rfl

/-- The keys in ascending order. -/
def keys (map : SortedMap κ α) : List κ := map.entries.map Prod.fst

/-- Whether there is no entry. -/
def isEmpty (map : SortedMap κ α) : Bool := map.entries.isEmpty

/-- The number of entries. -/
def size (map : SortedMap κ α) : Nat := map.entries.length

/-- Keeps the entries that satisfy a condition. -/
def filter (keep : κ → α → Bool) (map : SortedMap κ α) : SortedMap κ α where
  entries := map.entries.filter fun entry => keep entry.1 entry.2
  sorted := map.sorted.sublist (List.filter_sublist.map _)

/-- Applies a function to every value. -/
def mapValues (change : κ → α → β) (map : SortedMap κ α) : SortedMap κ β where
  entries := map.entries.map fun entry => (entry.1, change entry.1 entry.2)
  sorted := by
    rw [List.map_map]
    exact map.sorted

/-- Applies a fallible function to the entries of a list in order and stops at the first failure. -/
def traverseEntries (change : κ → α → Except ε β) : List (κ × α) → Except ε (List (κ × β))
  | [] => .ok []
  | (key, value) :: rest =>
      match change key value with
      | .error problem => .error problem
      | .ok changed =>
          match traverseEntries change rest with
          | .error problem => .error problem
          | .ok others => .ok ((key, changed) :: others)

omit [Ord κ] in
theorem keys_of_traverseEntries {change : κ → α → Except ε β} {entries : List (κ × α)}
    {changed : List (κ × β)} (success : traverseEntries change entries = .ok changed) :
    changed.map Prod.fst = entries.map Prod.fst := by
  induction entries generalizing changed with
  | nil => cases success; rfl
  | cons entry rest ih =>
    obtain ⟨key, value⟩ := entry
    rw [traverseEntries] at success
    split at success
    · cases success
    · split at success
      · cases success
      · cases success
        simp [ih ‹_›]

/-- Applies a fallible function to every value in key order and stops at the first failure. -/
def traverse (change : κ → α → Except ε β) (map : SortedMap κ α) :
    Except ε (SortedMap κ β) :=
  match success : traverseEntries change map.entries with
  | .error problem => .error problem
  | .ok changed => .ok ⟨changed, by rw [keys_of_traverseEntries success]; exact map.sorted⟩

variable [DecidableEq κ]

/-- The value of the first entry with a key. -/
def findEntry (key : κ) : List (κ × α) → Option α
  | [] => none
  | (other, value) :: rest => if other = key then some value else findEntry key rest

/-- The value stored under a key. -/
def get? (map : SortedMap κ α) (key : κ) : Option α := findEntry key map.entries

/-- Whether a key has an entry. -/
def contains (map : SortedMap κ α) (key : κ) : Bool := (map.get? key).isSome

/-- Removes the entry of a key, if there is one. -/
def erase (map : SortedMap κ α) (key : κ) : SortedMap κ α :=
  map.filter fun other _ => other ≠ key

omit [DecidableEq κ] in
/-- Puts an entry where its key belongs in an ascending list, in place of an entry with that key. -/
def insertEntry (key : κ) (value : α) : List (κ × α) → List (κ × α)
  | [] => [(key, value)]
  | (other, held) :: rest =>
      match compare key other with
      | .lt => (key, value) :: (other, held) :: rest
      | .eq => (key, value) :: rest
      | .gt => (other, held) :: insertEntry key value rest

omit [DecidableEq κ] in
theorem key_of_mem_insertEntry {key other : κ} {value : α} {entries : List (κ × α)}
    (member : other ∈ (insertEntry key value entries).map Prod.fst) :
    other = key ∨ other ∈ entries.map Prod.fst := by
  induction entries with
  | nil => simpa [insertEntry] using member
  | cons entry rest ih =>
    obtain ⟨held, kept⟩ := entry
    rw [insertEntry] at member
    split at member
    · simpa using member
    · simp only [List.map_cons, List.mem_cons] at member ⊢
      exact member.imp id .inr
    · simp only [List.map_cons, List.mem_cons] at member ⊢
      exact member.elim (fun same => .inr (.inl same))
        fun inside => (ih inside).imp id .inr

variable [Std.TransOrd κ] [Std.LawfulEqOrd κ]

omit [DecidableEq κ] in
theorem sorted_insertEntry {key : κ} {value : α} {entries : List (κ × α)}
    (sorted : Ascending (entries.map Prod.fst)) :
    Ascending ((insertEntry key value entries).map Prod.fst) := by
  induction entries with
  | nil => simp [insertEntry]
  | cons entry rest ih =>
    obtain ⟨other, held⟩ := entry
    rw [List.map_cons, Ascending, List.pairwise_cons] at sorted
    rw [insertEntry]
    split
    case h_1 before =>
      rw [List.map_cons, Ascending, List.pairwise_cons]
      refine ⟨fun later member => ?_, List.pairwise_cons.mpr sorted⟩
      rcases List.mem_cons.mp member with rfl | inside
      · exact before
      · exact Std.TransCmp.lt_trans before (sorted.1 later inside)
    case h_2 same =>
      cases Std.LawfulEqCmp.eq_of_compare same
      exact List.pairwise_cons.mpr sorted
    case h_3 after =>
      rw [List.map_cons, Ascending, List.pairwise_cons]
      refine ⟨fun later member => ?_, ih sorted.2⟩
      rcases key_of_mem_insertEntry member with rfl | inside
      · exact Std.OrientedCmp.lt_of_gt after
      · exact sorted.1 later inside

/-- Stores a value under a key, in place of the value stored there before. -/
def insert (map : SortedMap κ α) (key : κ) (value : α) : SortedMap κ α :=
  ⟨insertEntry key value map.entries, sorted_insertEntry map.sorted⟩

/-- The map that holds, for every key of the list, the last value listed with it. -/
def ofList (entries : List (κ × α)) : SortedMap κ α :=
  entries.foldl (fun map entry => map.insert entry.1 entry.2) empty

/-- The entries of both maps; where both have a key the upper map's value counts. -/
def overlay (lower upper : SortedMap κ α) : SortedMap κ α :=
  upper.entries.foldl (fun map entry => map.insert entry.1 entry.2) lower

/-- Changes the value stored under a key, if there is one. -/
def modify (map : SortedMap κ α) (key : κ) (change : α → α) : SortedMap κ α :=
  match map.get? key with
  | none => map
  | some value => map.insert key (change value)

end SortedMap

/-- A map keyed by text, in code point order. -/
abbrev StringMap (α : Type) := SortedMap String α

end ClusterOperator
