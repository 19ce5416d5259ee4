import LiveFlags.Proofs.Machine
import LiveFlags.Proofs.Store.Newest

/-!
# A store and its subscribers

Snapshots are offered to a store in any order, and subscribers come, read, ask whether there is anything
new and mark what they have seen, in any order as well. Whatever the history, the store shows the first of
the snapshots with the highest sequence (`Newest`), every subscriber reads this sequence, and what a
subscriber has not seen is exactly what has been taken since its last mark (`Marked`).
-/
namespace LiveFlags

/-- A store and its subscribers, in the order in which they have come. -/
structure Audience where
  /-- The store. -/
  store : Store
  /-- What the subscribers remember. -/
  subscribers : List Subscription

/-- What is done to a store and its subscribers. -/
inductive StoreAction where
  /-- A snapshot is offered to the store. -/
  | publish (snapshot : Snapshot)
  /-- Somebody subscribes. -/
  | subscribe
  /-- A subscriber reads. -/
  | borrow (subscriber : Nat)
  /-- A subscriber asks whether there is anything that it has not seen. -/
  | changed (subscriber : Nat)
  /-- A subscriber reads and marks what it reads as seen. -/
  | update (subscriber : Nat)

/-- What comes back. -/
inductive StoreReply where
  /-- Whether the snapshot has been taken. -/
  | taken (taken : Bool)
  /-- The place of the new subscriber. -/
  | subscribed (subscriber : Nat)
  /-- The sequence that the subscriber reads. -/
  | value (sequence : UInt64)
  /-- Whether there is anything that the subscriber has not seen. -/
  | unseen (changed : Bool)
  deriving DecidableEq, Repr

namespace Audience

/-- A store that nothing has been published to, without subscribers. -/
def fresh : Audience := ⟨.initial, []⟩

/-- What comes back from an action and what is left, if there is such a subscriber. -/
def perform (audience : Audience) : StoreAction → Option (StoreReply × Audience)
  | .publish snapshot =>
    some (.taken (audience.store.accepts snapshot),
      { audience with store := audience.store.publish snapshot })
  | .subscribe =>
    some (.subscribed audience.subscribers.length,
      { audience with subscribers := audience.subscribers ++ [audience.store.subscribe] })
  | .borrow subscriber =>
    audience.subscribers[subscriber]?.map fun _ => (.value audience.store.read, audience)
  | .changed subscriber =>
    audience.subscribers[subscriber]?.map fun subscription =>
      (.unseen (audience.store.hasChanged subscription), audience)
  | .update subscriber =>
    audience.subscribers[subscriber]?.map fun subscription =>
      (.value audience.store.read, { audience with
        subscribers := audience.subscribers.set subscriber (audience.store.markSeen subscription) })

/-- What is left after an action. -/
def step (audience : Audience) (action : StoreAction) : Option Audience :=
  (audience.perform action).map Prod.snd

/-- What is left after a history. -/
def run (audience : Audience) (history : List StoreAction) : Option Audience :=
  Machine.run step audience history

/-- The snapshot that an action makes the store take. -/
def taken? (audience : Audience) : StoreAction → Option Snapshot
  | .publish snapshot => if audience.store.accepts snapshot then some snapshot else none
  | _ => none

/-- What a subscriber reads in an action. -/
def reading? (subscriber : Nat) (audience : Audience) : StoreAction → Option UInt64
  | .borrow reader => if reader = subscriber then some audience.store.read else none
  | .update reader => if reader = subscriber then some audience.store.read else none
  | _ => none

/-- The snapshots that the store takes along a history, in order. -/
def taken (audience : Audience) (history : List StoreAction) : List Snapshot :=
  Machine.trail step taken? audience history

/-- What a subscriber reads along a history, in order. -/
def readings (subscriber : Nat) (audience : Audience) (history : List StoreAction) : List UInt64 :=
  Machine.trail step (reading? subscriber) audience history

end Audience

/-- The snapshot that an action offers to the store. -/
def StoreAction.offered? : StoreAction → Option Snapshot
  | .publish snapshot => some snapshot
  | _ => none

/-- Somebody subscribes. -/
def StoreAction.isSubscribe : StoreAction → Bool
  | .subscribe => true
  | _ => false

/-- What readers of a store that they have found with a sequence have read until it has come to another. -/
structure Climbs (first last : UInt64) (readings : List UInt64) : Prop where
  /-- The sequence has not gone down. -/
  upward : first ≤ last
  /-- Everything that has been read lies between the two sequences. -/
  between : ∀ value ∈ readings, first ≤ value ∧ value ≤ last
  /-- What is read later is no lower. -/
  ordered : readings.Pairwise (· ≤ ·)

namespace Audience

variable {audience next last : Audience} {action : StoreAction} {history later : List StoreAction}

/-- What an action that can happen does. -/
inductive Performed (audience : Audience) : StoreAction → Audience → Prop where
  /-- A snapshot is offered. -/
  | publish (snapshot : Snapshot) :
    Performed audience (.publish snapshot) { audience with store := audience.store.publish snapshot }
  /-- A subscriber comes, and has seen what is visible. -/
  | subscribe : Performed audience .subscribe
      { audience with subscribers := audience.subscribers ++ [⟨audience.store.taken⟩] }
  /-- A subscriber reads. -/
  | borrow (subscriber : Nat) (there : subscriber < audience.subscribers.length) :
    Performed audience (.borrow subscriber) audience
  /-- A subscriber asks. -/
  | changed (subscriber : Nat) (there : subscriber < audience.subscribers.length) :
    Performed audience (.changed subscriber) audience
  /-- A subscriber reads, and has seen what is visible. -/
  | update (subscriber : Nat) (there : subscriber < audience.subscribers.length) :
    Performed audience (.update subscriber) { audience with
      subscribers := audience.subscribers.set subscriber ⟨audience.store.taken⟩ }

/-- Every step is one of these. -/
theorem performed_of_step (stepped : audience.step action = some next) : Performed audience action next := by
  cases action with
  | publish snapshot =>
    obtain rfl := Option.some.inj stepped
    exact .publish snapshot
  | subscribe =>
    obtain rfl := Option.some.inj stepped
    exact .subscribe
  | borrow subscriber | changed subscriber | update subscriber =>
    simp only [step, perform, Option.map_map, Option.map_eq_some_iff, Function.comp_apply] at stepped
    obtain ⟨subscription, found, rfl⟩ := stepped
    have there := (List.getElem?_eq_some_iff.mp found).1
    constructor
    exact there

/-- Every step tells readers the sequence of the visible snapshot, and takes at most one snapshot. -/
theorem grown_step {first : Store} {taken : List Snapshot} (stepped : audience.step action = some next)
    (grown : first.Grown taken audience.store) :
    first.Grown (taken ++ (audience.taken? action).toList) next.store := by
  cases performed_of_step stepped with
  | publish snapshot =>
    have published := grown.publish snapshot
    cases accepted : audience.store.accepts snapshot with
    | false => simpa [taken?, accepted] using published
    | true => simpa [taken?, accepted] using published
  | subscribe | borrow | changed | update => simpa [taken?] using grown

/-- What a store has become after a history is what it has taken meanwhile. -/
theorem grown_run (ran : audience.run later = some last) :
    audience.store.Grown (audience.taken later) last.store :=
  Machine.keeps_trail taken? (fun taken middle => audience.store.Grown taken middle.store)
    (fun _ => True) (fun _ => grown_step) (fun _ _ => trivial) ⟨rfl, rfl, fun some => absurd rfl some⟩ ran

/-- Readers read the sequence of the visible snapshot. -/
def Told (audience : Audience) : Prop := audience.store.read = audience.store.current.sequence

/-- Readers of a store that nothing has been published to read zero. -/
theorem told_fresh : Told fresh := rfl

/-- Every step leaves readers with the sequence of the visible snapshot. -/
theorem told_step (stepped : audience.step action = some next) (told : Told audience) : Told next := by
  cases performed_of_step stepped with
  | publish snapshot =>
    unfold Told
    dsimp only
    cases accepted : audience.store.accepts snapshot with
    | true =>
      rw [Store.publish_of_accepts accepted]
      rfl
    | false =>
      rw [Store.publish_of_not_accepts accepted]
      exact told
  | subscribe | borrow | changed | update => exact told

/-- Every history leaves readers with the sequence of the visible snapshot. -/
theorem told_run (told : Told audience) (ran : audience.run later = some last) : Told last :=
  Machine.keeps_history (fun _ middle => Told middle) (fun _ stepped kept => told_step stepped kept) told ran

/-- The visible sequence is higher later exactly if a snapshot has been taken in between. -/
theorem lt_iff_taken (ran : audience.run later = some last) :
    audience.store.current.sequence < last.store.current.sequence ↔ audience.taken later ≠ [] := by
  have grown := grown_run ran
  refine ⟨fun above none => ?_, grown.above⟩
  have same : last.store.current = audience.store.current := by simpa [none] using grown.current
  rw [same] at above
  exact UInt64.lt_irrefl _ above

/-- The visible sequence does not go down. -/
theorem sequence_le_run (ran : audience.run later = some last) :
    audience.store.current.sequence ≤ last.store.current.sequence := by
  by_cases none : audience.taken later = []
  · have same : last.store.current = audience.store.current := by simpa [none] using (grown_run ran).current
    rw [same]
    exact UInt64.le_refl _
  · exact UInt64.le_of_lt ((lt_iff_taken ran).mpr none)

/-- What a subscriber reads in one action is the sequence of the visible snapshot. -/
theorem eq_of_reading? {subscriber : Nat} {value : UInt64} (told : Told audience)
    (reads : audience.reading? subscriber action = some value) :
    value = audience.store.current.sequence := by
  rw [← told]
  unfold reading? at reads
  split at reads
  · split at reads
    · exact (Option.some.inj reads).symm
    · contradiction
  · split at reads
    · exact (Option.some.inj reads).symm
    · contradiction
  · contradiction

/-- Everything that a subscriber reads in a step is the visible sequence, which no step takes down. -/
theorem climbs_step {first : UInt64} {seen : List UInt64} {subscriber : Nat} (told : Told audience)
    (stepped : audience.step action = some next)
    (climbs : Climbs first audience.store.current.sequence seen) :
    Climbs first next.store.current.sequence (seen ++ (audience.reading? subscriber action).toList) := by
  have up : audience.store.current.sequence ≤ next.store.current.sequence :=
    sequence_le_run (Machine.run_singleton.trans stepped)
  have now : ∀ value ∈ (audience.reading? subscriber action).toList,
      value = audience.store.current.sequence :=
    fun value member => eq_of_reading? told (Option.mem_toList.mp member)
  refine ⟨UInt64.le_trans climbs.upward up, fun value member => ?_, ?_⟩
  · rcases List.mem_append.mp member with before | here
    · obtain ⟨least, most⟩ := climbs.between value before
      exact ⟨least, UInt64.le_trans most up⟩
    · rw [now value here]
      exact ⟨climbs.upward, up⟩
  · refine List.pairwise_append.mpr ⟨climbs.ordered, ?_, fun value before later here => ?_⟩
    · cases audience.reading? subscriber action with
      | none => exact .nil
      | some value => exact List.pairwise_singleton _ _
    · rw [now later here]
      exact (climbs.between value before).2

/-- Along a history a subscriber reads sequences that never go down. -/
theorem climbs_run (subscriber : Nat) (told : Told audience) (ran : audience.run later = some last) :
    Climbs audience.store.current.sequence last.store.current.sequence
      (readings subscriber audience later) := by
  have kept := Machine.keeps_trail (reading? subscriber)
    (fun seen middle =>
      Told middle ∧ Climbs audience.store.current.sequence middle.store.current.sequence seen)
    (fun _ => True)
    (fun _ stepped held => ⟨told_step stepped held.1, climbs_step held.1 stepped held.2⟩)
    (fun _ _ => trivial) ⟨told, UInt64.le_refl _, by simp, .nil⟩ ran
  exact kept.2

/-- The newest of all snapshots that have been offered is visible. -/
theorem newest_run (ran : fresh.run history = some audience) :
    Newest (history.filterMap StoreAction.offered?) audience.store.current := by
  refine Machine.keeps_history
    (fun history middle => Newest (history.filterMap StoreAction.offered?) middle.store.current)
    (fun {history middle next action} _ stepped newest => ?_) (.inl ⟨rfl, by simp⟩) ran
  rw [List.filterMap_append]
  cases performed_of_step stepped with
  | publish snapshot => exact newest.publish snapshot
  | subscribe | borrow | changed | update => simpa [List.filterMap_cons, StoreAction.offered?] using newest

/-- There are as many subscribers as have come. -/
theorem length_subscribers (ran : fresh.run history = some audience) :
    audience.subscribers.length = history.countP StoreAction.isSubscribe := by
  refine Machine.keeps_history
    (fun history middle => middle.subscribers.length = history.countP StoreAction.isSubscribe)
    (fun {history middle next action} _ stepped counted => ?_) rfl ran
  cases performed_of_step stepped with
  | publish | subscribe | borrow | changed | update => simp [StoreAction.isSubscribe, counted]

/-- A subscriber has last marked what it had seen, by coming or by an update, at some point of the history,
and remembers how many snapshots had been taken until then. -/
structure Marked (subscriber : Nat) (before : List StoreAction) (mark : StoreAction)
    (after : List StoreAction) (marked audience : Audience) : Prop where
  /-- The subscriber came or updated. -/
  how : mark = .update subscriber ∨
    mark = .subscribe ∧ before.countP StoreAction.isSubscribe = subscriber
  /-- It has not done so since. -/
  since : ∀ action ∈ after, action ≠ .update subscriber
  /-- What was there at the mark. -/
  upTo : fresh.run (before ++ [mark]) = some marked
  /-- What has become of it. -/
  onward : marked.run after = some audience
  /-- What the subscriber remembers. -/
  remembers : audience.subscribers[subscriber]? = some ⟨marked.store.taken⟩

/-- A subscriber that has marked just now remembers it. -/
theorem marked_now {subscriber : Nat} (ran : fresh.run history = some audience)
    (stepped : audience.step action = some next)
    (how : action = .update subscriber ∨
      action = .subscribe ∧ history.countP StoreAction.isSubscribe = subscriber)
    (remembers : next.subscribers[subscriber]? = some ⟨next.store.taken⟩) :
    Marked subscriber history action [] next next :=
  ⟨how, by simp, Machine.run_trans ran (Machine.run_singleton.trans stepped), rfl, remembers⟩

/-- A step that is no mark of a subscriber leaves its mark where it was. -/
theorem Marked.step {subscriber : Nat} {before after : List StoreAction} {mark : StoreAction}
    {marked : Audience} (held : Marked subscriber before mark after marked audience)
    (stepped : audience.step action = some next) (other : action ≠ .update subscriber)
    (same : next.subscribers[subscriber]? = audience.subscribers[subscriber]?) :
    Marked subscriber before mark (after ++ [action]) marked next where
  how := held.how
  since := by
    simpa [or_imp, forall_and, other] using held.since
  upTo := held.upTo
  onward := Machine.run_trans held.onward (Machine.run_singleton.trans stepped)
  remembers := same.trans held.remembers

/-- Every subscriber has a last mark. -/
theorem marked_run (ran : fresh.run history = some audience) (subscriber : Nat)
    (there : subscriber < audience.subscribers.length) :
    ∃ before mark after marked, history = before ++ mark :: after ∧
      Marked subscriber before mark after marked audience := by
  refine Machine.keeps_history
    (fun history middle => ∀ subscriber < middle.subscribers.length, ∃ before mark after marked,
      history = before ++ mark :: after ∧ Marked subscriber before mark after marked middle)
    (fun {history middle next action} ran stepped held => ?_) (by simp [fresh]) ran subscriber there
  intro subscriber there
  have counted := length_subscribers ran
  -- whatever is no mark of the subscriber moves its last one back by one action
  have keeps : subscriber < middle.subscribers.length → action ≠ .update subscriber →
      next.subscribers[subscriber]? = middle.subscribers[subscriber]? →
      ∃ before mark after marked, history ++ [action] = before ++ mark :: after ∧
        Marked subscriber before mark after marked next := by
    intro before other same
    obtain ⟨before, mark, after, marked, rfl, last⟩ := held subscriber before
    exact ⟨before, mark, after ++ [action], marked, by simp, last.step stepped other same⟩
  cases performed_of_step stepped with
  | publish snapshot => exact keeps there (by simp) rfl
  | borrow reader | changed reader => exact keeps there (by simp) rfl
  | subscribe =>
    rcases Nat.lt_or_eq_of_le (Nat.le_of_lt_succ (by simpa using there)) with before | rfl
    · exact keeps before (by simp) (List.getElem?_append_left before)
    · exact ⟨history, .subscribe, [], _, rfl, marked_now ran stepped (.inr ⟨rfl, counted.symm⟩) (by simp)⟩
  | update reader inside =>
    by_cases self : reader = subscriber
    · subst self
      exact ⟨history, .update reader, [], _, rfl,
        marked_now ran stepped (.inl rfl) (List.getElem?_set_self inside)⟩
    · exact keeps (by simpa using there) (by simpa using self) (List.getElem?_set_ne self)

/-- A subscriber has something to see exactly if a snapshot has been taken since its mark. -/
theorem Marked.hasChanged_iff {subscriber : Nat} {before after : List StoreAction} {mark : StoreAction}
    {marked : Audience} (held : Marked subscriber before mark after marked audience) :
    audience.store.hasChanged ⟨marked.store.taken⟩ = true ↔ marked.taken after ≠ [] := by
  have count := (grown_run held.onward).count
  simp [Store.hasChanged, count]

/-- Whatever has been taken since its mark, a subscriber has read less until then than it will ever read. -/
theorem Marked.lt_of_taken {subscriber : Nat} {before after : List StoreAction} {mark : StoreAction}
    {marked : Audience} (held : Marked subscriber before mark after marked audience)
    (taken : marked.taken after ≠ []) (ran : audience.run later = some last) :
    ∀ value ∈ readings subscriber audience later, marked.store.current.sequence < value ∧
      ∀ earlier ∈ readings subscriber fresh (before ++ [mark]), earlier < value := by
  have told : Told audience := told_run (told_run told_fresh held.upTo) held.onward
  intro value member
  have later := ((climbs_run subscriber told ran).between value member).1
  have above := UInt64.lt_of_lt_of_le ((lt_iff_taken held.onward).mpr taken) later
  refine ⟨above, fun earlier early => ?_⟩
  have before := ((climbs_run subscriber told_fresh held.upTo).between earlier early).2
  exact UInt64.lt_of_le_of_lt before above

/-- What a store and its subscribers promise after a history. -/
structure Agrees (history : List StoreAction) (audience : Audience) : Prop where
  /-- A snapshot is taken exactly if its sequence is above zero and above all that have been offered; one
  that is not taken changes nothing. -/
  publish : ∀ snapshot, ∃ taken next, audience.perform (.publish snapshot) = some (.taken taken, next) ∧
    (taken = true ↔ 0 < snapshot.sequence ∧
      ∀ earlier ∈ history.filterMap StoreAction.offered?, earlier.sequence < snapshot.sequence) ∧
    (taken = false → next = audience)
  /-- The first snapshot with the highest sequence is visible. -/
  newest : Newest (history.filterMap StoreAction.offered?) audience.store.current
  /-- It is the last one that has been taken. -/
  last : audience.store.current = (fresh.taken history).getLastD .empty
  /-- There are as many subscribers as have come. -/
  count : audience.subscribers.length = history.countP StoreAction.isSubscribe
  /-- Every subscriber reads the sequence of the visible snapshot. -/
  reads : ∀ subscriber < audience.subscribers.length,
    audience.perform (.borrow subscriber) = some (.value audience.store.current.sequence, audience) ∧
    ∃ next, audience.perform (.update subscriber) = some (.value audience.store.current.sequence, next) ∧
      next.store = audience.store
  /-- Every subscriber is told that there is something new exactly if a snapshot has been taken since its
  last mark, and from then on it reads more than it had read until that mark, and than was visible
  there. -/
  unseen : ∀ subscriber < audience.subscribers.length, ∃ before mark after marked report,
    history = before ++ mark :: after ∧ Marked subscriber before mark after marked audience ∧
    audience.perform (.changed subscriber) = some (.unseen report, audience) ∧
    (report = true ↔ marked.taken after ≠ []) ∧
    (report = true → ∀ later last, audience.run later = some last →
      ∀ value ∈ readings subscriber audience later, marked.store.current.sequence < value ∧
        ∀ earlier ∈ readings subscriber fresh (before ++ [mark]), earlier < value)
  /-- What a subscriber reads never goes down. -/
  climbs : ∀ subscriber, (readings subscriber fresh history).Pairwise (· ≤ ·)
  /-- What is to be read is higher later exactly if a snapshot has been taken in between. -/
  rises : ∀ later last, audience.run later = some last →
    (audience.store.current.sequence < last.store.current.sequence ↔ audience.taken later ≠ [])

/-- A store and its subscribers agree after every history. -/
theorem agrees_after (history : List StoreAction) (audience : Audience)
    (ran : fresh.run history = some audience) : Agrees history audience := by
  have newest := newest_run ran
  have told : Told audience := told_run told_fresh ran
  refine ⟨fun snapshot => ⟨_, _, rfl, ?_, fun refused => ?_⟩, newest, (grown_run ran).current,
    length_subscribers ran, fun subscriber there => ?_, fun subscriber there => ?_,
    fun subscriber => (climbs_run subscriber told_fresh ran).ordered,
    fun later last onward => lt_iff_taken onward⟩
  · rw [← newest.lt_iff]
    simp [Store.accepts]
  · rw [Store.publish_of_not_accepts refused]
  · have found := List.getElem?_eq_getElem there
    rw [← told]
    exact ⟨by simp [perform, found],
      { audience with subscribers := audience.subscribers.set subscriber ⟨audience.store.taken⟩ },
      by simp [perform, found, Store.markSeen], rfl⟩
  · obtain ⟨before, mark, after, marked, split, held⟩ := marked_run ran subscriber there
    refine ⟨before, mark, after, marked, audience.store.hasChanged ⟨marked.store.taken⟩, split, held, ?_,
      held.hasChanged_iff, fun report later last onward => ?_⟩
    · simp [perform, held.remembers]
    · exact held.lt_of_taken (held.hasChanged_iff.mp report) onward

/-- Two subscribers, a stale snapshot, one with a sequence that has been there and one without. -/
def crowded : List StoreAction :=
  [.publish (.ofSet .empty 0 .epoch), .subscribe, .publish (.ofSet .empty 5 .epoch), .borrow 0,
    .publish (.ofSet .empty 4 .epoch), .publish (.ofSet .empty 5 .epoch), .subscribe, .update 0,
    .publish (.ofSet .empty 7 .epoch), .changed 0, .borrow 1, .update 1]

/-- Only the snapshots with the sequences five and seven are taken. The first subscriber, which has last
looked in between, is told of the second one; the second subscriber reads seven and is told of nothing. -/
theorem agrees_after_crowded :
    ∃ audience, fresh.run crowded = some audience ∧
      (fresh.taken crowded).map Snapshot.sequence = [5, 7] ∧
      audience.store.current.sequence = 7 ∧ audience.subscribers.length = 2 ∧
      (∃ next, audience.perform (.update 0) = some (.value 7, next)) ∧
      audience.perform (.changed 0) = some (.unseen true, audience) ∧
      audience.perform (.changed 1) = some (.unseen false, audience) ∧
      (readings 1 fresh crowded).Pairwise (· ≤ ·) ∧ readings 1 fresh crowded = [7, 7] := by
  have ran : fresh.run crowded = some _ := rfl
  have agrees := agrees_after crowded _ ran
  obtain ⟨next, updates, _⟩ := (agrees.reads 0 (by decide)).2
  exact ⟨_, ran, by decide, by decide, agrees.count.trans (by decide), ⟨next, updates⟩, by rfl, by rfl,
    agrees.climbs 1, by decide⟩

/-- A subscriber reads what has come after it without marking it as seen. -/
def peeking : List StoreAction := [.subscribe, .publish (.ofSet .empty 5 .epoch), .borrow 0]

/-- A subscriber that is told of something new need not read more than it has ever read: what it has read without
marking it is new to it still, and is read again. -/
theorem reread_after_report :
    ∃ audience, fresh.run peeking = some audience ∧
      audience.perform (.changed 0) = some (.unseen true, audience) ∧
      readings 0 fresh peeking = [5] ∧ readings 0 audience [.borrow 0] = [5] ∧
      ¬∀ earlier ∈ readings 0 fresh peeking, ∀ value ∈ readings 0 audience [.borrow 0], earlier < value := by
  have ran : fresh.run peeking = some _ := rfl
  refine ⟨_, ran, by rfl, by decide, by decide, fun rises => ?_⟩
  have less : (5 : UInt64) < 5 := rises 5 (by decide) 5 (by decide)
  exact absurd less (by decide)

end Audience

end LiveFlags
