import LiveFlags.Store

/-!
# The newest snapshot

A store takes a snapshot exactly if its sequence is above that of the visible one. So of all that have been
offered the first one with the highest sequence is visible (`Newest.publish`), and what a store has taken
since some moment says what has become of it (`Store.Grown`).
-/
namespace LiveFlags

/-- A snapshot is the first of those with the highest sequence, or the empty one if no sequence is above
zero. -/
def Newest (offered : List Snapshot) (current : Snapshot) : Prop :=
  (current = .empty ∧ ∀ snapshot ∈ offered, snapshot.sequence = 0) ∨
    ∃ front back, offered = front ++ current :: back ∧ 0 < current.sequence ∧
      (∀ snapshot ∈ front, snapshot.sequence < current.sequence) ∧
      ∀ snapshot ∈ back, snapshot.sequence ≤ current.sequence

/-- What has become of a store that has taken some snapshots since. -/
structure Store.Grown (first : Store) (taken : List Snapshot) (last : Store) : Prop where
  /-- Every snapshot that is taken is counted. -/
  count : last.taken = first.taken + taken.length
  /-- The last one is visible. -/
  current : last.current = taken.getLastD first.current
  /-- Each has moved the visible sequence up. -/
  above : taken ≠ [] → first.current.sequence < last.current.sequence

variable {offered : List Snapshot} {current : Snapshot}

/-- The sequences above the newest are those above zero and above all that have been offered. -/
theorem Newest.lt_iff (newest : Newest offered current) (sequence : UInt64) :
    current.sequence < sequence ↔ 0 < sequence ∧ ∀ earlier ∈ offered, earlier.sequence < sequence := by
  rcases newest with ⟨rfl, none⟩ | ⟨front, back, rfl, positive, below, least⟩
  · constructor
    · intro above
      exact ⟨above, fun earlier member => none earlier member ▸ above⟩
    · exact fun above => above.1
  · constructor
    · intro above
      refine ⟨UInt64.lt_trans positive above, fun earlier member => ?_⟩
      rcases List.mem_append.mp member with before | later
      · exact UInt64.lt_trans (below earlier before) above
      · rcases List.mem_cons.mp later with rfl | after
        · exact above
        · exact UInt64.lt_of_le_of_lt (least earlier after) above
    · exact fun above => above.2 current (by simp)

/-- A snapshot that is taken is the first of its sequence, and one that is not leaves the newest as it
was. -/
theorem Newest.publish {store : Store} (newest : Newest offered store.current) (snapshot : Snapshot) :
    Newest (offered ++ [snapshot]) (store.publish snapshot).current := by
  cases taken : store.accepts snapshot with
  | true =>
    obtain ⟨positive, below⟩ := (newest.lt_iff snapshot.sequence).mp (by simpa [Store.accepts] using taken)
    rw [Store.publish_of_accepts taken]
    exact .inr ⟨offered, [], rfl, positive, below, by simp⟩
  | false =>
    have refused : snapshot.sequence ≤ store.current.sequence := by simpa [Store.accepts] using taken
    rw [Store.publish_of_not_accepts taken]
    rcases newest with ⟨same, none⟩ | ⟨front, back, split, positive, below, least⟩
    · have zero : snapshot.sequence = 0 := by
        rw [same] at refused
        exact UInt64.le_zero_iff.mp refused
      exact .inl ⟨same, by simpa [or_imp, forall_and, zero] using none⟩
    · refine .inr ⟨front, back ++ [snapshot], by simp [split], positive, below, ?_⟩
      simpa [or_imp, forall_and, refused] using least

/-- A store that is offered a snapshot takes it or not. -/
theorem Store.Grown.publish {first store : Store} {taken : List Snapshot}
    (grown : first.Grown taken store) (snapshot : Snapshot) :
    first.Grown (taken ++ if store.accepts snapshot then [snapshot] else []) (store.publish snapshot) := by
  cases accepted : store.accepts snapshot with
  | false =>
    rw [Store.publish_of_not_accepts accepted]
    simpa using grown
  | true =>
    have higher : store.current.sequence < snapshot.sequence := by simpa [Store.accepts] using accepted
    rw [Store.publish_of_accepts accepted]
    refine ⟨?_, by simp, fun _ => ?_⟩
    · simp [grown.count, Nat.add_assoc]
    · by_cases none : taken = []
      · have same : store.current = first.current := by simpa [none] using grown.current
        rwa [same] at higher
      · exact UInt64.lt_trans (grown.above none) higher

end LiveFlags
