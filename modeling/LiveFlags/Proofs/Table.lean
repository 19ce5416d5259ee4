import LiveFlags.Table
import Mathlib.Data.List.Perm.Basic
import Mathlib.Data.List.Sort

/-!
# Tables from lists of entries

A table is what is in it: tables with the same entries, in whatever order, are equal. So entries with
different keys come to the same table in whatever order they are inserted (`Table.ofList_of_perm`).
-/
namespace LiveFlags

variable {α β : Type}

/-- No two entries have the same key. -/
abbrev KeysDistinct (entries : List (String × α)) : Prop :=
  entries.Pairwise fun left right => left.1 ≠ right.1

/-- Entries in key order have different keys. -/
theorem EntriesSorted.keysDistinct {entries : List (String × α)} (sorted : EntriesSorted entries) :
    KeysDistinct entries := by
  refine sorted.imp fun below same => ?_
  rw [same] at below
  exact String.lt_irrefl _ below

/-- Entries with different keys have different keys in any order. -/
theorem KeysDistinct.perm {entries other : List (String × α)} (distinct : KeysDistinct entries)
    (same : other.Perm entries) : KeysDistinct other :=
  same.symm.pairwise distinct fun differ => differ.symm

namespace Table

/-- An insertion replaces the entry of its key. -/
theorem mem_entries_insert {table : Table α} {key : String} {value : α} {entry : String × α} :
    entry ∈ (table.insert key value).entries ↔ entry = (key, value) ∨ entry.1 ≠ key ∧ entry ∈ table.entries := by
  obtain ⟨other, held⟩ := entry
  rw [← get?_eq_some_iff, get?_insert, ← get?_eq_some_iff]
  by_cases same : other = key
  · simp [same, eq_comm]
  · simp [same]

/-- The entries after several insertions are those inserted, and those there before whose keys have not been
inserted. -/
theorem mem_entries_foldl_insert {entries : List (String × α)} (distinct : KeysDistinct entries) (table : Table α)
    {entry : String × α} :
    entry ∈ (entries.foldl (fun table entry => table.insert entry.1 entry.2) table).entries ↔
      entry ∈ entries ∨ (∀ other ∈ entries, entry.1 ≠ other.1) ∧ entry ∈ table.entries := by
  induction entries generalizing table with
  | nil => simp
  | cons head rest ih =>
    obtain ⟨apart, distinct⟩ := List.pairwise_cons.mp distinct
    rw [List.foldl_cons, ih distinct, mem_entries_insert, List.mem_cons, List.forall_mem_cons]
    have inserted : entry = head → ∀ other ∈ rest, entry.1 ≠ other.1 := fun same => same ▸ apart
    grind

/-- Tables with the same entries in any order are equal. -/
theorem ext_of_mem {left right : Table α} (same : ∀ entry, entry ∈ left.entries ↔ entry ∈ right.entries) :
    left = right := by
  have below : ∀ {first second : String × α}, first.1 < second.1 → ¬second.1 < first.1 :=
    fun before after => String.lt_irrefl _ (String.lt_trans before after)
  have : Std.Antisymm fun first second : String × α => first.1 < second.1 :=
    ⟨fun _ _ before after => absurd after (below before)⟩
  have : Std.Irrefl fun first second : String × α => first.1 < second.1 :=
    ⟨fun _ before => String.lt_irrefl _ before⟩
  exact ext (left.sorted.eq_of_mem_iff right.sorted same)

/-- Inserting the entries of a table in any order gives the table. -/
theorem ofList_of_perm {entries : List (String × α)} {table : Table α} (same : entries.Perm table.entries) :
    ofList entries = table := by
  refine ext_of_mem fun entry => ?_
  rw [ofList, mem_entries_foldl_insert (table.sorted.keysDistinct.perm same), same.mem_iff]
  simp

/-- Inserting into a table inserts into its entries. -/
theorem entries_foldl_insert (entries : List (String × α)) (table : Table α) :
    (entries.foldl (fun table entry => table.insert entry.1 entry.2) table).entries =
      entries.foldl (fun sorted entry => insertEntry entry.1 entry.2 sorted) table.entries := by
  induction entries generalizing table with
  | nil => rfl
  | cons head rest ih =>
    rw [List.foldl_cons, List.foldl_cons, ih]
    rfl

/-- Inserting entries in key order, one after the other, leaves them as they are. -/
theorem foldl_insertEntry_of_sorted {entries : List (String × α)} (sorted : EntriesSorted entries) :
    entries.foldl (fun sorted entry => insertEntry entry.1 entry.2 sorted) [] = entries := by
  have whole := ofList_of_perm (List.Perm.refl (Table.mk entries sorted).entries)
  have listed := congrArg Table.entries whole
  rwa [ofList, entries_foldl_insert] at listed

/-- Images of images are images under both maps in turn. -/
theorem map_map {γ : Type} (g : β → γ) (f : α → β) (table : Table α) : (table.map f).map g = table.map (g ∘ f) := by
  apply ext
  simp [Function.comp_def]

end Table

end LiveFlags
