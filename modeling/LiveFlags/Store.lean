import LiveFlags.Event

/-!
# The store of the visible snapshot

A store serves one snapshot and takes another only if its sequence is higher. Subscribers read the
sequence of the visible snapshot and can tell whether a snapshot has been published since they last
looked: each publication that is taken moves a counter, and a subscription remembers where the
counter stood.
-/
namespace LiveFlags

/-- The visible snapshot and what subscribers see of it. -/
structure Store where
  /-- The visible snapshot. -/
  current : Snapshot
  /-- The value that subscribers read. -/
  notice : UInt64
  /-- How many snapshots have been taken. -/
  taken : Nat

/-- What a subscriber remembers. -/
structure Subscription where
  /-- How many snapshots the store had taken when the subscriber last looked. -/
  seen : Nat
  deriving DecidableEq, Repr

namespace Store

/-- A store that nothing has been published to. -/
def initial : Store := ⟨.empty, 0, 0⟩

instance : Inhabited Store := ⟨initial⟩

/-- Whether a snapshot is newer than the visible one. -/
def accepts (store : Store) (snapshot : Snapshot) : Bool :=
  store.current.sequence < snapshot.sequence

/-- The store after a snapshot has been offered to it. -/
def publish (store : Store) (snapshot : Snapshot) : Store :=
  if store.accepts snapshot then ⟨snapshot, snapshot.sequence, store.taken + 1⟩ else store

/-- The events of offering a snapshot. -/
def publishEvents (store : Store) (snapshot : Snapshot) : List Event :=
  if store.accepts snapshot then []
  else [.snapshotDiscarded snapshot.sequence store.current.sequence]

/-- The number of visible flags. -/
def flagCount (store : Store) : Nat := store.current.flagCount

/-- A new subscriber has seen what is visible now. -/
def subscribe (store : Store) : Subscription := ⟨store.taken⟩

/-- What a subscriber reads. -/
def read (store : Store) : UInt64 := store.notice

/-- Whether a snapshot has been taken since the subscriber last looked. -/
def hasChanged (store : Store) (subscription : Subscription) : Bool :=
  store.taken ≠ subscription.seen

/-- The subscriber looks. -/
def markSeen (store : Store) (_ : Subscription) : Subscription := ⟨store.taken⟩

/-- A snapshot that is newer becomes visible. -/
theorem publish_of_accepts {store : Store} {snapshot : Snapshot}
    (h : store.accepts snapshot = true) :
    store.publish snapshot = ⟨snapshot, snapshot.sequence, store.taken + 1⟩ := by
  simp [publish, h]

/-- A snapshot that is not newer changes nothing. -/
theorem publish_of_not_accepts {store : Store} {snapshot : Snapshot}
    (h : store.accepts snapshot = false) : store.publish snapshot = store := by
  simp [publish, h]

end Store

end LiveFlags
