/-!
A table names values and keeps its keys in order of first arrival. Writing to a
key that is present changes its value and leaves its place, so a key written
twice stands where it first stood and holds what was written last.

`get?` is the view of a table: each operation below says what it does to it.
-/

set_option autoImplicit false

namespace StoryGraph

/-- Named values in order of first arrival, each name once. -/
structure Table (α : Type) where
  entries : List (String × α)
  distinct : (entries.map Prod.fst).Nodup
  deriving DecidableEq

namespace Table

variable {α β : Type}

def empty : Table α := ⟨[], List.nodup_nil⟩

instance : Inhabited (Table α) := ⟨empty⟩

instance : EmptyCollection (Table α) := ⟨empty⟩

def keys (table : Table α) : List String := table.entries.map Prod.fst

def valueOf? (key : String) : List (String × α) → Option α
  | [] => none
  | entry :: rest => if entry.1 = key then some entry.2 else valueOf? key rest

def get? (table : Table α) (key : String) : Option α := valueOf? key table.entries

def contains (table : Table α) (key : String) : Bool := (table.get? key).isSome

/-- Entries with a value put under a key: in its place if the key is there, else at the end. -/
def putEntry (key : String) (value : α) : List (String × α) → List (String × α)
  | [] => [(key, value)]
  | entry :: rest =>
      if entry.1 = key then (key, value) :: rest else entry :: putEntry key value rest

theorem mem_keys_putEntry {key other : String} {value : α} {entries : List (String × α)} :
    other ∈ (putEntry key value entries).map Prod.fst ↔
      other = key ∨ other ∈ entries.map Prod.fst := by
  induction entries with
  | nil => simp [putEntry]
  | cons entry rest inductionHypothesis =>
      unfold putEntry
      split
      next same => simp [same]
      next => simp only [List.map_cons, List.mem_cons, inductionHypothesis]; grind

theorem nodup_keys_putEntry {key : String} {value : α} {entries : List (String × α)}
    (distinct : (entries.map Prod.fst).Nodup) :
    ((putEntry key value entries).map Prod.fst).Nodup := by
  induction entries with
  | nil => simp [putEntry]
  | cons entry rest inductionHypothesis =>
      rw [List.map_cons, List.nodup_cons] at distinct
      unfold putEntry
      split
      next same =>
        subst same
        exact List.nodup_cons.mpr distinct
      next other =>
        refine List.nodup_cons.mpr ⟨fun present => ?_, inductionHypothesis distinct.2⟩
        rcases mem_keys_putEntry.mp present with equal | present
        · exact other equal
        · exact distinct.1 present

def insert (table : Table α) (key : String) (value : α) : Table α :=
  ⟨putEntry key value table.entries, nodup_keys_putEntry table.distinct⟩

def erase (table : Table α) (key : String) : Table α where
  entries := table.entries.filter fun entry => entry.1 ≠ key
  distinct := (List.filter_sublist.map Prod.fst).nodup table.distinct

def ofList (pairs : List (String × α)) : Table α :=
  pairs.foldl (fun table pair => table.insert pair.1 pair.2) empty

def map (change : String → α → β) (table : Table α) : Table β where
  entries := table.entries.map fun entry => (entry.1, change entry.1 entry.2)
  distinct := by
    simpa [List.map_map, Function.comp_def] using table.distinct

/-- The entries by key, in increasing order of code points. -/
def ordered (table : Table α) : List (String × α) :=
  table.entries.mergeSort fun left right => decide (left.1 ≤ right.1)

def orderedKeys (table : Table α) : List String :=
  table.keys.mergeSort fun left right => decide (left ≤ right)

theorem valueOf?_putEntry (key other : String) (value : α) (entries : List (String × α)) :
    valueOf? other (putEntry key value entries) =
      if other = key then some value else valueOf? other entries := by
  induction entries with
  | nil => grind [putEntry, valueOf?]
  | cons entry rest inductionHypothesis => grind [putEntry, valueOf?]

theorem valueOf?_filter (key other : String) (entries : List (String × α)) :
    valueOf? other (entries.filter fun entry => entry.1 ≠ key) =
      if other = key then none else valueOf? other entries := by
  induction entries with
  | nil => simp [valueOf?]
  | cons entry rest inductionHypothesis => grind [valueOf?]

@[simp] theorem get?_insert (table : Table α) (key other : String) (value : α) :
    (table.insert key value).get? other =
      if other = key then some value else table.get? other :=
  valueOf?_putEntry key other value table.entries

@[simp] theorem get?_erase (table : Table α) (key other : String) :
    (table.erase key).get? other = if other = key then none else table.get? other :=
  valueOf?_filter key other table.entries

theorem valueOf?_map (change : String → α → β) (key : String) (entries : List (String × α)) :
    valueOf? key (entries.map fun entry => (entry.1, change entry.1 entry.2)) =
      (valueOf? key entries).map (change key) := by
  induction entries with
  | nil => rfl
  | cons entry rest inductionHypothesis => grind [valueOf?]

@[simp] theorem get?_map (table : Table α) (change : String → α → β) (key : String) :
    (table.map change).get? key = (table.get? key).map (change key) :=
  valueOf?_map change key table.entries

theorem mem_of_valueOf? {key : String} {value : α} {entries : List (String × α)}
    (found : valueOf? key entries = some value) : (key, value) ∈ entries := by
  induction entries with
  | nil => simp [valueOf?] at found
  | cons entry rest inductionHypothesis => grind [valueOf?]

theorem valueOf?_isSome_iff {key : String} {entries : List (String × α)} :
    (valueOf? key entries).isSome = true ↔ key ∈ entries.map Prod.fst := by
  induction entries with
  | nil => simp [valueOf?]
  | cons entry rest inductionHypothesis => grind [valueOf?]

theorem contains_iff_mem_keys {table : Table α} {key : String} :
    table.contains key = true ↔ key ∈ table.keys := valueOf?_isSome_iff

@[simp] theorem mem_orderedKeys {table : Table α} {key : String} :
    key ∈ table.orderedKeys ↔ table.contains key = true := by
  rw [orderedKeys, List.mem_mergeSort, contains_iff_mem_keys]

theorem orderedKeys_increasing (table : Table α) : table.orderedKeys.Pairwise (· < ·) := by
  have ascending : table.orderedKeys.Pairwise fun left right => decide (left ≤ right) = true := by
    apply List.pairwise_mergeSort
    · intro first second third
      simpa using String.le_trans
    · intro left right
      simpa using String.le_total left right
  have distinct : table.orderedKeys.Nodup :=
    (List.mergeSort_perm table.keys _).nodup_iff.mpr table.distinct
  refine (ascending.and distinct).imp ?_
  rintro left right ⟨atMost, apart⟩
  exact Std.lt_of_le_of_ne (of_decide_eq_true atMost) apart

theorem mem_putEntry {key : String} {value : α} {entries : List (String × α)}
    {entry : String × α} (present : entry ∈ putEntry key value entries) :
    entry = (key, value) ∨ entry ∈ entries := by
  induction entries with
  | nil => simpa [putEntry] using present
  | cons first rest inductionHypothesis =>
      rw [putEntry] at present
      split at present
      · rcases List.mem_cons.mp present with same | later
        · exact .inl same
        · exact .inr (List.mem_cons_of_mem _ later)
      · rcases List.mem_cons.mp present with same | later
        · exact .inr (same ▸ List.mem_cons_self)
        · rcases inductionHypothesis later with same | earlier
          · exact .inl same
          · exact .inr (List.mem_cons_of_mem _ earlier)

theorem putEntry_of_new {key : String} {value : α} {entries : List (String × α)}
    (new : key ∉ entries.map Prod.fst) :
    putEntry key value entries = entries ++ [(key, value)] := by
  induction entries with
  | nil => rfl
  | cons entry rest inductionHypothesis =>
      simp only [List.map_cons, List.mem_cons, not_or] at new
      rw [putEntry, if_neg (Ne.symm new.1), inductionHypothesis new.2, List.cons_append]

@[simp] theorem entries_ofList {pairs : List (String × α)} (distinct : (pairs.map Prod.fst).Nodup) :
    (ofList pairs).entries = pairs := by
  have grown : ∀ (later : List (String × α)) (table : Table α),
      ((table.entries ++ later).map Prod.fst).Nodup →
        (later.foldl (fun table pair => table.insert pair.1 pair.2) table).entries =
          table.entries ++ later := by
    intro later
    induction later with
    | nil => simp
    | cons pair rest inductionHypothesis =>
        intro table distinct
        have new : pair.1 ∉ table.entries.map Prod.fst := by
          rw [List.map_append, List.map_cons, List.nodup_append] at distinct
          exact fun present => distinct.2.2 _ present _ List.mem_cons_self rfl
        have put : (table.insert pair.1 pair.2).entries = table.entries ++ [pair] :=
          putEntry_of_new new
        have whole :
            (table.insert pair.1 pair.2).entries ++ rest = table.entries ++ pair :: rest := by
          rw [put, List.append_assoc, List.singleton_append]
        rw [List.foldl_cons, inductionHypothesis _ (by rwa [whole]), whole]
  exact grown pairs empty distinct

@[simp] theorem ofList_entries (table : Table α) : ofList table.entries = table := by
  have kept := entries_ofList table.distinct
  generalize ofList table.entries = other at kept
  cases other
  cases kept
  rfl

theorem mem_of_mem_ofList {pairs : List (String × α)} {entry : String × α}
    (present : entry ∈ (ofList pairs).entries) : entry ∈ pairs := by
  have grown : ∀ (later : List (String × α)) (table : Table α),
      entry ∈ (later.foldl (fun table pair => table.insert pair.1 pair.2) table).entries →
        entry ∈ table.entries ∨ entry ∈ later := by
    intro later
    induction later with
    | nil => exact fun table present => .inl present
    | cons pair rest inductionHypothesis =>
        intro table present
        rcases inductionHypothesis _ present with earlier | later
        · rcases mem_putEntry earlier with rfl | earlier
          · exact .inr List.mem_cons_self
          · exact .inl earlier
        · exact .inr (List.mem_cons_of_mem _ later)
  rcases grown pairs empty present with nowhere | listed
  · cases nowhere
  · exact listed

end Table

end StoryGraph
