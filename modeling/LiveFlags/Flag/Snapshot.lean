import LiveFlags.Flag.Set
import LiveFlags.Time.Timestamp

/-!
# Snapshots

A snapshot is the flag set of one fetch together with the time of the fetch and its place in the
sequence of publications. It never changes; a later fetch makes a snapshot with a higher sequence.
Sequence zero belongs to the empty snapshot, which is served before anything has been published.
-/
namespace LiveFlags

/-- The flags as of one fetch. -/
structure Snapshot where
  /-- The flags by key. -/
  flags : Flags
  /-- When the flags were fetched. -/
  fetchedAt : Timestamp
  /-- The version that the source gives to these flags. -/
  version : Option String
  /-- The place in the sequence of publications. -/
  sequence : UInt64

namespace Snapshot

/-- The snapshot of a fetched set. -/
def ofSet (set : FlagSet) (sequence : UInt64) (fetchedAt : Timestamp) : Snapshot :=
  ⟨set.flags, fetchedAt, set.version, sequence⟩

/-- The snapshot served before anything has been published. -/
def empty : Snapshot := ⟨.empty, .epoch, none, 0⟩

instance : Inhabited Snapshot := ⟨empty⟩

/-- Nothing has been published with this sequence. -/
def isEmptySnapshot (snapshot : Snapshot) : Bool := snapshot.sequence = 0

/-- The flag with the key, if there is one. -/
def get? (snapshot : Snapshot) (key : String) : Option FlagValue := snapshot.flags.get? key

/-- Whether there is a flag with the key. -/
def contains (snapshot : Snapshot) (key : String) : Bool := snapshot.flags.contains key

/-- The number of flags. -/
def flagCount (snapshot : Snapshot) : Nat := snapshot.flags.size

/-- Whether the snapshot is the one served before anything has been published. -/
def isInitial (snapshot : Snapshot) : Bool :=
  snapshot.flags.entries.isEmpty && snapshot.fetchedAt = .epoch && snapshot.version.isNone
    && snapshot.sequence = 0

/-- The snapshot as plain JSON; a version that is not there is `null`. -/
def toJson (snapshot : Snapshot) : Json.Value :=
  .object [
    ("flags", snapshot.flags.toJson),
    ("fetched_at", .string snapshot.fetchedAt.render),
    ("version", snapshot.version.elim .null .string),
    ("sequence", .natural snapshot.sequence)]

end Snapshot

end LiveFlags
