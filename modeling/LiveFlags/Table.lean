/-!
# Tables keyed by text

A table is a list of entries in strictly increasing order of their keys, so two tables with the same
entries are equal and a table has one order of iteration. Inserting replaces the value of a key that
is present (`get?_insert`). Keys are ordered by code point, which is also the order of their UTF-8
bytes.
-/
namespace LiveFlags

/-- The entries with one more, in key order; the value of an equal key is replaced. -/
def insertEntry {α : Type} (key : String) (value : α) :
    List (String × α) → List (String × α)
  | [] => [(key, value)]
  | entry :: rest =>
    if key < entry.1 then (key, value) :: entry :: rest
    else if key = entry.1 then (key, value) :: rest
    else entry :: insertEntry key value rest

/-- The value of the first entry with the key. -/
def lookupEntry {α : Type} (key : String) : List (String × α) → Option α
  | [] => none
  | entry :: rest => if entry.1 = key then some entry.2 else lookupEntry key rest

/-- The keys of a list of entries increase strictly. -/
abbrev EntriesSorted {α : Type} (entries : List (String × α)) : Prop :=
  entries.Pairwise fun left right => left.1 < right.1

section Entries

variable {α β : Type}

/-- An entry after an insertion is the new one or was there before. -/
theorem mem_insertEntry {key : String} {value : α} {entries : List (String × α)}
    {entry : String × α} (h : entry ∈ insertEntry key value entries) :
    entry = (key, value) ∨ entry ∈ entries := by
  induction entries with
  | nil => simpa [insertEntry] using h
  | cons head rest ih =>
    simp only [insertEntry] at h
    split at h
    · simpa using h
    · split at h
      · simp only [List.mem_cons] at h ⊢
        rcases h with h | h
        · exact Or.inl h
        · exact Or.inr (Or.inr h)
      · simp only [List.mem_cons] at h ⊢
        rcases h with h | h
        · exact Or.inr (Or.inl h)
        · rcases ih h with h | h
          · exact Or.inl h
          · exact Or.inr (Or.inr h)

/-- Insertion keeps the keys strictly increasing. -/
theorem sorted_insertEntry {key : String} {value : α} {entries : List (String × α)}
    (h : EntriesSorted entries) : EntriesSorted (insertEntry key value entries) := by
  induction entries with
  | nil => simp [insertEntry]
  | cons head rest ih =>
    obtain ⟨below, sorted⟩ := List.pairwise_cons.1 h
    simp only [insertEntry]
    split
    · rename_i less
      refine List.pairwise_cons.2 ⟨fun entry member => ?_, h⟩
      rcases List.mem_cons.1 member with rfl | member
      · exact less
      · exact String.lt_trans less (below entry member)
    · split
      · rename_i equal
        exact List.pairwise_cons.2 ⟨fun entry member => equal ▸ below entry member, sorted⟩
      · rename_i notLess notEqual
        refine List.pairwise_cons.2 ⟨fun entry member => ?_, ih sorted⟩
        rcases mem_insertEntry member with rfl | member
        · rcases String.le_total head.1 key with order | order
          · exact Decidable.byContradiction fun absent =>
              notEqual (String.le_antisymm (String.not_lt.1 absent) order)
          · exact Decidable.byContradiction fun absent =>
              notEqual (String.le_antisymm (String.not_lt.1 absent) (String.not_lt.1 notLess))
        · exact below entry member

/-- Looking a key up after an insertion. -/
theorem lookupEntry_insertEntry {key other : String} {value : α} {entries : List (String × α)} :
    lookupEntry other (insertEntry key value entries) =
      if other = key then some value else lookupEntry other entries := by
  induction entries with
  | nil => simp only [insertEntry, lookupEntry, eq_comm]
  | cons head rest ih =>
    simp only [insertEntry]
    split
    · simp only [lookupEntry, eq_comm]
    · split
      · rename_i equal
        simp only [lookupEntry, ← equal]
        by_cases same : key = other <;> simp [same, eq_comm]
      · rename_i notEqual
        simp only [lookupEntry, ih]
        by_cases same : head.1 = other
        · subst same
          simp [Ne.symm notEqual]
        · simp [same]

/-- In entries with increasing keys, what is found is what is there. -/
theorem lookupEntry_eq_some_iff {key : String} {value : α} {entries : List (String × α)}
    (h : EntriesSorted entries) : lookupEntry key entries = some value ↔ (key, value) ∈ entries := by
  induction entries with
  | nil => simp [lookupEntry]
  | cons head rest ih =>
    obtain ⟨below, sorted⟩ := List.pairwise_cons.1 h
    obtain ⟨headKey, headValue⟩ := head
    simp only [lookupEntry, List.mem_cons, Prod.mk.injEq]
    split
    · rename_i equal
      subst equal
      refine ⟨fun found => Or.inl ⟨rfl, (Option.some.inj found).symm⟩, ?_⟩
      rintro (⟨-, rfl⟩ | member)
      · rfl
      · exact absurd (below _ member) (String.lt_irrefl _)
    · rename_i different
      rw [ih sorted]
      refine ⟨Or.inr, ?_⟩
      rintro (⟨equal, -⟩ | member)
      · exact absurd equal.symm different
      · exact member

end Entries

/-- A finite map from texts to values. -/
structure Table (α : Type) where
  /-- The entries in key order. -/
  entries : List (String × α)
  /-- The keys increase strictly. -/
  sorted : EntriesSorted entries

namespace Table

variable {α β : Type}

/-- Tables with the same entries are equal. -/
@[ext] theorem ext {left right : Table α} (h : left.entries = right.entries) : left = right := by
  cases left; cases right; simp_all

instance [DecidableEq α] : DecidableEq (Table α) := fun left right =>
  decidable_of_iff (left.entries = right.entries) ⟨ext, fun h => h ▸ rfl⟩

/-- The table without entries. -/
def empty : Table α := ⟨[], List.Pairwise.nil⟩

instance : Inhabited (Table α) := ⟨empty⟩

/-- The table with the value of one key set. -/
def insert (table : Table α) (key : String) (value : α) : Table α :=
  ⟨insertEntry key value table.entries, sorted_insertEntry table.sorted⟩

/-- The value of a key, if it has one. -/
def get? (table : Table α) (key : String) : Option α := lookupEntry key table.entries

/-- Whether the key has a value. -/
def contains (table : Table α) (key : String) : Bool := (table.get? key).isSome

/-- The number of keys. -/
def size (table : Table α) : Nat := table.entries.length

/-- The table of a list of entries; of several with one key the last counts. -/
def ofList (entries : List (String × α)) : Table α :=
  entries.foldl (fun table entry => table.insert entry.1 entry.2) empty

/-- The table with every value replaced by its image. -/
def map (f : α → β) (table : Table α) : Table β :=
  ⟨table.entries.map fun entry => (entry.1, f entry.2), by
    simpa [EntriesSorted, List.pairwise_map] using table.sorted⟩

@[simp] theorem entries_empty : (empty : Table α).entries = [] := rfl

@[simp] theorem entries_map (f : α → β) (table : Table α) :
    (table.map f).entries = table.entries.map fun entry => (entry.1, f entry.2) := rfl

@[simp] theorem get?_empty (key : String) : (empty : Table α).get? key = none := rfl

/-- An insertion sets its own key and no other. -/
@[simp] theorem get?_insert (table : Table α) (key other : String) (value : α) :
    (table.insert key value).get? other = if other = key then some value else table.get? other :=
  lookupEntry_insertEntry

/-- A value is found exactly where an entry holds it. -/
theorem get?_eq_some_iff {table : Table α} {key : String} {value : α} :
    table.get? key = some value ↔ (key, value) ∈ table.entries :=
  lookupEntry_eq_some_iff table.sorted

end Table

end LiveFlags
