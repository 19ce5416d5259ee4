import LiveFlags.Proofs.Client.Accounting
import LiveFlags.Proofs.Client.Numbering
import LiveFlags.Proofs.Stats

/-!
# The log tells how the polls have ended

What the poll loop writes to the log is a function of the ends of its polls: `narrate` gives the lines for a
list of ends, one end after the other, without looking at the client. The log of every reachable client has
just these lines from its loop, followed by one more once the loop has been left (`chronicled_run`). So the
lines agree with the counters at every moment.
-/
namespace LiveFlags

namespace Line

/-- The line warns of a poll that has failed. -/
def isWarning (line : Line) : Bool :=
  line.level = .warn && line.message = "Flag poll failed, serving previous snapshot"

/-- The line reports the end of a poll: the first snapshot, a later one, or a failure. -/
def isReport (line : Line) : Bool :=
  line.level = .info && line.message = "Runtime flags initialized" ||
    line.level = .debug && line.message = "Published flag snapshot" || line.isWarning

end Line

namespace Event

/-- The event comes from the poll loop of a client that publishes alone. -/
def isFromLoop : Event → Bool
  | .initialized _ _ | .published _ _ _ | .pollFailed _ _ | .snapshotDiscarded _ _ | .notPublished _
  | .loopExited => true
  | _ => false

/-- The lines of a log that the poll loop has written. -/
def loopLines (log : List Event) : List Line := (log.filter isFromLoop).map line

/-- A log that goes on has the lines of both parts. -/
theorem loopLines_append (log events : List Event) :
    loopLines (log ++ events) = loopLines log ++ loopLines events := by
  rw [loopLines, List.filter_append, List.map_append, loopLines, loopLines]

end Event

namespace PollEnd

/-- The snapshot that the store has taken. -/
def snapshot? : PollEnd → Option Snapshot
  | .published snapshot => some snapshot
  | _ => none

/-- Why the poll has failed. -/
def failure? : PollEnd → Option PollFailure
  | .failed failure => some failure
  | _ => none

/-- The failures since the store has last taken a snapshot. -/
def sinceTaken (ends : List PollEnd) : List PollFailure :=
  (ends.rtakeWhile fun last => !last.isPublished).filterMap failure?

/-- A number of failures as the field of a line, which has 32 bits and stays at the greatest number. -/
def countField (failures : Nat) : EventField :=
  .natural (UInt32.ofNat (min (2 ^ 32 - 1) failures)).toUInt64

/-- The fields that describe a snapshot. -/
def snapshotFields (snapshot : Snapshot) : List (String × EventField) :=
  ("flags", .natural (UInt64.ofNat snapshot.flagCount)) :: match snapshot.version with
    | some version => [("version", .text version)]
    | none => []

/-- What the loop writes about the end of a poll after other ends. -/
def told (before : List PollEnd) : PollEnd → List Line
  | .published snapshot =>
    if before.any isPublished then
      [⟨.debug, "Published flag snapshot", ("sequence", .natural snapshot.sequence) :: snapshotFields snapshot⟩]
    else [⟨.info, "Runtime flags initialized", snapshotFields snapshot⟩]
  | .failed failure =>
    [⟨.warn, "Flag poll failed, serving previous snapshot",
      [("reason", .text failure.reason), ("error", .text failure.message),
        ("consecutive_failures", countField ((sinceTaken before).length + 1))]⟩]
  | .discarded snapshot =>
    [⟨.debug, "Discarding out-of-order snapshot",
      [("sequence", .natural snapshot.sequence),
        ("current", .natural (UInt64.ofNat (before.countP isPublished)))]⟩,
      ⟨.debug, "Snapshot not published", [("sequence", .natural snapshot.sequence)]⟩]
  | .panicked => []

/-- What the loop writes about the ends of polls after other ends. -/
def narrateAfter (before : List PollEnd) : List PollEnd → List Line
  | [] => []
  | last :: rest => told before last ++ narrateAfter (before ++ [last]) rest

/-- What the loop writes about the ends of its polls. -/
def narrate (ends : List PollEnd) : List Line := narrateAfter [] ends

/-- What the loop writes when it is left. -/
def parting : Task → List Line
  | .ended .finished => [⟨.debug, "Poll loop exited", []⟩]
  | _ => []

variable {ends before : List PollEnd} {last : PollEnd}

/-- The version is a field of its own, which is left out if there is none. -/
theorem snapshotFields_eq (snapshot : Snapshot) :
    snapshotFields snapshot =
      Event.countField "flags" snapshot.flagCount :: Event.optionalField "version" snapshot.version := by
  unfold snapshotFields
  cases snapshot.version with
  | none => rfl
  | some version => rfl

theorem narrateAfter_concat :
    narrateAfter before (ends ++ [last]) = narrateAfter before ends ++ told (before ++ ends) last := by
  induction ends generalizing before with
  | nil => simp [narrateAfter]
  | cons first ends ih => simp [narrateAfter, ih]

/-- What is written about one end more comes last. -/
theorem narrate_concat : narrate (ends ++ [last]) = narrate ends ++ told ends last :=
  narrateAfter_concat

/-- A snapshot that is taken ends the streak of failures; any other end may add to it. -/
theorem sinceTaken_concat :
    sinceTaken (ends ++ [last]) = if last.isPublished then [] else sinceTaken ends ++ last.failure?.toList := by
  unfold sinceTaken
  by_cases taken : last.isPublished
  · simp [taken]
  · cases failed : last.failure? with
    | none => simp [taken, failed]
    | some failure => simp [taken, failed]

end PollEnd

namespace Client

open Event (loopLines loopLines_append)
open PollEnd

/-- The sequence of the visible snapshot agrees with the snapshots that have been taken. -/
structure Sequenced (ends : List PollEnd) (sequence : UInt64) : Prop where
  /-- The visible snapshot is as far on as snapshots have been taken. -/
  visible : sequence.toNat = ends.countP isPublished
  /-- The snapshots that have been taken are numbered from one. -/
  numbered : (ends.filterMap snapshot?).map (·.sequence.toNat) = List.range' 1 (ends.countP isPublished)
  /-- No snapshot has been discarded. -/
  whole : ends.countP isDiscarded = 0

/-- The counters agree with the failures since a snapshot was taken. -/
structure Streak (ends : List PollEnd) (tracker : Tracker) : Prop where
  /-- The streak is the number of these failures, or the greatest there is. -/
  length : tracker.consecutiveFailures = UInt32.ofNat (min (2 ^ 32 - 1) (sinceTaken ends).length)
  /-- The last error is the kind of the last of them. -/
  last : tracker.lastError = (sinceTaken ends).getLast?.map PollFailure.reason

/-- The lines of the loop tell the ends of its polls, and the visible snapshot and the counters agree with
these. -/
structure Chronicled (ends : List PollEnd) (client : Client) : Prop where
  /-- The loop has written what there is to say about the ends of its polls, and that it has been left. -/
  lines : loopLines client.log.toList = narrate ends ++ parting client.task
  /-- The visible snapshot agrees with the ends. -/
  sequenced : Sequenced ends client.store.current.sequence
  /-- The counters agree with the ends. -/
  streak : Streak ends client.tracker

variable {client next : Client} {action : Action} {actions : List Action} {ends : List PollEnd} {last : PollEnd}
  {sequence : UInt64} {snapshot : Snapshot} {failure : PollFailure} {tracker : Tracker}

section Ends

/-- An end that brings the store no snapshot leaves the numbers. -/
theorem Sequenced.of_unoffered (sequenced : Sequenced ends sequence) (none : last.snapshot? = none)
    (untaken : last.isPublished = false) (kept : last.isDiscarded = false) :
    Sequenced (ends ++ [last]) sequence := by
  obtain ⟨visible, numbered, whole⟩ := sequenced
  refine ⟨?_, ?_, ?_⟩
  · simpa [untaken] using visible
  · simpa [none, untaken] using numbered
  · simpa [kept] using whole

/-- A snapshot that is taken has the next number. -/
theorem Sequenced.taken (sequenced : Sequenced ends sequence)
    (number : snapshot.sequence.toNat = ends.countP isPublished + 1) :
    Sequenced (ends ++ [.published snapshot]) snapshot.sequence := by
  have one : (ends ++ [PollEnd.published snapshot]).countP isPublished = ends.countP isPublished + 1 := by
    simp [isPublished]
  have came : (PollEnd.published snapshot).snapshot? = some snapshot := rfl
  refine ⟨number.trans one.symm, ?_, ?_⟩
  · rw [one, List.range'_1_concat, ← sequenced.numbered]
    simp [came, number, Nat.add_comm]
  · simpa [isDiscarded] using sequenced.whole

/-- An end that is neither a snapshot taken nor a failure leaves the streak. -/
theorem Streak.of_quiet (streak : Streak ends tracker) (untaken : last.isPublished = false)
    (unfailed : last.failure? = none) : Streak (ends ++ [last]) tracker := by
  obtain ⟨length, last⟩ := streak
  refine ⟨?_, ?_⟩
  · simpa [sinceTaken_concat, untaken, unfailed] using length
  · simpa [sinceTaken_concat, untaken, unfailed] using last

/-- A failure is one more in the streak. -/
theorem Streak.failed (streak : Streak ends tracker) (failure : PollFailure) :
    Streak (ends ++ [.failed failure]) (tracker.recordFailure failure) := by
  refine ⟨?_, ?_⟩
  · simp only [Tracker.recordFailure, streak.length, sinceTaken_concat, isPublished, failure?, Option.toList_some,
      List.length_append, List.length_singleton, Bool.false_eq_true, ↓reduceIte]
    exact Tracker.succ_streak _
  · simp [Tracker.recordFailure, sinceTaken_concat, isPublished, failure?]

/-- A snapshot that is taken ends the streak. -/
theorem Streak.taken (snapshot : Snapshot) (wall : Timestamp) (now : Instant) :
    Streak (ends ++ [.published snapshot]) (tracker.recordSuccess snapshot.flagCount wall now) := by
  refine ⟨?_, ?_⟩
  · simp [Tracker.recordSuccess, sinceTaken_concat, isPublished]
  · simp [Tracker.recordSuccess, sinceTaken_concat, isPublished]

end Ends

theorem chronicled_initial (config : Config) (timerStep : Nat) : Chronicled [] (initial config timerStep) :=
  ⟨rfl, ⟨rfl, rfl, rfl⟩, rfl, rfl⟩

/-- Events that do not come from the loop leave its lines. -/
theorem loopLines_of_quiet {log log' : Array Event} {events : List Event} (quiet : loopLines events = [])
    (added : log'.toList = log.toList ++ events) : loopLines log'.toList = loopLines log.toList := by
  rw [added, loopLines_append, quiet, List.append_nil]

/-- A task that goes on has not left its loop. -/
theorem parting_of_live {task : Task} (live : task.isOver = false) : parting task = [] := by
  cases task with
  | absent | queued | fetching | sleeping => rfl
  | ended how => simp [Task.isOver] at live

/-- A task that is aborted leaves its loop without a word. -/
theorem parting_abortTask (task : Task) : parting (abortTask task) = parting task := by
  cases task <;> rfl

/-- What a start that comes too late writes does not come from the loop. -/
theorem loopLines_enterStart (client : Client) (caller : Nat) (late : client.guarded ≠ .idle) :
    loopLines (client.enterStart caller).log.toList = loopLines client.log.toList := by
  have running : loopLines [.alreadyRunning] = [] := rfl
  have stopped : loopLines [.cannotRestart] = [] := rfl
  cases guarded : client.guarded with
  | idle => exact absurd guarded late
  | running => exact loopLines_of_quiet running (by simp [enterStart, guarded, answer, logging])
  | stopped => exact loopLines_of_quiet stopped (by simp [enterStart, guarded, answer, logging])

/-- The store has something to show exactly if a snapshot has been taken. -/
theorem Chronicled.isEmptySnapshot_iff (kept : Chronicled ends client) :
    client.store.current.isEmptySnapshot = true ↔ ends.any isPublished = false := by
  have visible := kept.sequenced.visible
  rw [Snapshot.isEmptySnapshot, decide_eq_true_eq, ← UInt64.toNat_inj, visible, UInt64.toNat_zero,
    List.countP_eq_zero, List.any_eq_false]

/-- The events of an outcome are what there is to say about the end of the poll. -/
theorem Chronicled.lines_outcomeEvents (kept : Chronicled ends client) (outcome : PollOutcome) :
    loopLines (client.outcomeEvents outcome) = told ends (client.endOf outcome) := by
  cases outcome with
  | failure failure =>
    have streak : (client.tracker.recordFailure failure).consecutiveFailures =
        UInt32.ofNat (min (2 ^ 32 - 1) ((sinceTaken ends).length + 1)) := by
      simp only [Tracker.recordFailure, kept.streak.length]
      exact Tracker.succ_streak _
    rw [outcomeEvents, streak]
    rfl
  | success snapshot =>
    by_cases taken : client.store.accepts snapshot = true
    · have first := kept.isEmptySnapshot_iff
      simp only [outcomeEvents, Store.publishEvents, endOf, taken, ↓reduceIte, List.nil_append, told]
      cases before : ends.any isPublished with
      | true =>
        rw [before] at first
        rw [if_neg (by simp [first]), if_pos rfl, snapshotFields_eq]
        rfl
      | false =>
        rw [if_pos (first.mpr before), if_neg Bool.false_ne_true, snapshotFields_eq]
        rfl
    · have current : client.store.current.sequence = UInt64.ofNat (ends.countP isPublished) := by
        rw [← kept.sequenced.visible, UInt64.ofNat_toNat]
      simp only [outcomeEvents, Store.publishEvents, endOf, taken, told, current, Bool.false_eq_true, ↓reduceIte]
      rfl

/-- The lines of a loop that is left are those of its last event. -/
theorem lines_partingEvents (task : Task) :
    loopLines (partingEvents task) = parting task := by
  cases task with
  | ended how =>
    cases how with
    | finished | panicked | aborted => rfl
  | absent | queued | fetching | sleeping => rfl

/-- A poll that comes to an outcome is told at the end of the log. -/
theorem Chronicled.lines_finish {started cutOff : Instant} (kept : Chronicled ends client)
    (fetching : client.task = .fetching started cutOff) (outcome : PollOutcome) (draw : Draw) :
    loopLines (client.afterPoll outcome started draw).log.toList =
      narrate (ends ++ [client.endOf outcome]) ++ parting (client.taskAfter started draw) := by
  have before : loopLines client.log.toList = narrate ends := by
    rw [kept.lines, fetching]
    exact List.append_nil _
  rw [Array.toList_appendList, loopLines_append, loopLines_append, before,
    kept.lines_outcomeEvents, lines_partingEvents, narrate_concat, List.append_assoc]

/-- A poll that comes to an outcome leaves the log, the counters and the visible snapshot in agreement. -/
theorem chronicled_finish {started cutOff : Instant} (ordered : InSequence client)
    (kept : Chronicled ends client) (fetching : client.task = .fetching started cutOff)
    (outcome : PollOutcome) (draw : Draw) (following : UInt64)
    (next : ∀ snapshot, outcome = .success snapshot →
      ∃ set, snapshot = .ofSet set client.nextSequence client.wall) :
    Chronicled (ends ++ [client.endOf outcome])
      { client.afterPoll outcome started draw with nextSequence := following } := by
  refine ⟨kept.lines_finish fetching outcome draw, ?_, ?_⟩
  all_goals obtain ⟨_, sequenced, streak⟩ := kept
  · cases outcome with
    | failure failure => exact sequenced.of_unoffered rfl rfl rfl
    | success snapshot =>
      obtain ⟨set, rfl⟩ := next snapshot rfl
      have present : client.task ≠ .absent := by simp [fetching]
      have accepted := ordered.accepts present set client.wall
      simp only [endOf, storeAfter, accepted, ↓reduceIte]
      rw [Store.publish_of_accepts accepted]
      refine sequenced.taken ?_
      rw [Snapshot.ofSet, ordered present, sequenced.visible]
  · cases outcome with
    | failure failure => exact streak.failed failure
    | success snapshot =>
      simp only [endOf, trackerAfter]
      cases taken : client.store.accepts snapshot with
      | true => exact Streak.taken snapshot client.wall client.now
      | false => exact streak.of_quiet rfl rfl

/-- A poll that panics tells nothing. -/
theorem chronicled_panic {started cutOff : Instant} (kept : Chronicled ends client)
    (fetching : client.task = .fetching started cutOff) :
    Chronicled (ends ++ [.panicked]) { client with task := .ended (.panicked true) } := by
  obtain ⟨lines, sequenced, streak⟩ := kept
  refine ⟨?_, sequenced.of_unoffered rfl rfl rfl, streak.of_quiet rfl rfl⟩
  rw [narrate_concat, told, List.append_nil]
  rw [fetching] at lines
  exact lines

/-- Every step of a client that publishes alone leaves the log, the counters and the visible snapshot in
agreement with the ends of its polls. -/
theorem chronicled_step (alone : ∀ snapshot, action ≠ .publish snapshot) (orderly : Orderly client)
    (ordered : InSequence client) (stepped : client.step action = some next) (kept : Chronicled ends client) :
    Chronicled (ends ++ (client.pollEnd? action).toList) next := by
  have whole := kept
  obtain ⟨lines, sequenced, streak⟩ := kept
  cases transition_of_step stepped with
  | starts caller rest free head idle =>
    rw [(orderly.idle idle).1] at lines
    have quiet : loopLines [client.startedEvent] = [] := rfl
    simp only [pollEnd?, Option.toList_none, List.append_nil]
    exact ⟨(loopLines_of_quiet quiet (by simp)).trans lines, sequenced, streak⟩
  | startsAgain caller rest free head taken =>
    simp only [pollEnd?, Option.toList_none, List.append_nil]
    exact ⟨(loopLines_enterStart { client with queue := rest } caller taken).trans lines, sequenced, streak⟩
  | stopsIdle caller rest free head idle =>
    have quiet : loopLines [.stoppedBeforeStart] = [] := rfl
    simp only [pollEnd?, Option.toList_none, List.append_nil]
    exact ⟨(loopLines_of_quiet quiet (by simp)).trans lines, sequenced, streak⟩
  | drains caller how holds past =>
    have quiet : loopLines (drainedEvents how) = [] := by cases how <;> rfl
    simp only [pollEnd?, Option.toList_none, List.append_nil]
    exact ⟨(loopLines_of_quiet quiet (by simp)).trans lines, sequenced, streak⟩
  | exits woken told =>
    rw [parting_of_live (rested_of_woken woken).2.1, List.append_nil] at lines
    simp only [pollEnd?, Option.toList_none, List.append_nil]
    refine ⟨?_, sequenced, streak⟩
    rw [Array.toList_appendList, loopLines_append, lines]
    rfl
  | begins due untold =>
    rw [parting_of_live (rested_of_due due).2.1] at lines
    simp only [pollEnd?, Option.toList_none, List.append_nil]
    exact ⟨lines, sequenced, streak.length, streak.last⟩
  | answers result draw started cutOff fetching following counts =>
    simp only [pollEnd?, fetching, endOfAnswer, counts, Option.toList_some]
    refine chronicled_finish ordered whole fetching _ draw following fun snapshot came => ?_
    obtain ⟨set, _, _, same⟩ := success_of_outcome came
    exact ⟨set, same⟩
  | cutsOff draw started cutOff fetching late =>
    simp only [pollEnd?, fetching, Option.toList_some]
    exact chronicled_finish ordered whole fetching (.failure .timeout) draw client.nextSequence (by simp)
  | overflows result draw started cutOff fetching last =>
    simp only [pollEnd?, fetching, endOfAnswer, last, Option.toList_some]
    exact chronicled_panic whole fetching
  | panics started cutOff fetching =>
    simp only [pollEnd?, fetching, Option.toList_some]
    exact chronicled_panic whole fetching
  | publishes snapshot => exact absurd rfl (alone snapshot)
  | dropsRunning still running =>
    simp only [pollEnd?, Option.toList_none, List.append_nil]
    exact ⟨lines.trans (congrArg _ (parting_abortTask client.task).symm), sequenced, streak⟩
  | calls | refuses | startFails | cancels | stopsAgain | leavesDrain | leavesQueue | awaits | notices | givesUp
  | elapses | dropsOther =>
    simp only [pollEnd?, Option.toList_none, List.append_nil]
    exact ⟨lines, sequenced, streak⟩

/-- Every run of a client that publishes alone leaves the log, the counters and the visible snapshot in agreement
with the ends of its polls. -/
theorem chronicled_run (alone : ∀ action ∈ actions, ∀ snapshot, action ≠ .publish snapshot)
    (orderly : Orderly client) (ordered : InSequence client) (ran : client.run actions = some next)
    (kept : Chronicled ends client) : Chronicled (ends ++ client.pollEnds actions) next := by
  induction actions generalizing client ends with
  | nil =>
    obtain rfl := Option.some.inj ran
    simpa [pollEnds] using kept
  | cons action actions ih =>
    obtain ⟨middle, stepped, ran⟩ := run_cons ran
    obtain ⟨here, later⟩ := List.forall_mem_cons.mp alone
    rw [pollEnds_cons stepped, ← List.append_assoc]
    exact ih later (orderly_step stepped orderly) (inSequence_step here stepped ordered) ran
      (chronicled_step here orderly ordered stepped kept)

section Counts

/-- The number of lines of a kind in the log. -/
def logged (client : Client) (kind : Line → Bool) : Nat := client.log.toList.countP fun event => kind event.line

/-- If only the loop writes lines of a kind, they are among its lines. -/
theorem logged_eq {kind : Line → Bool} (own : ∀ event : Event, kind event.line = true → event.isFromLoop = true)
    (client : Client) : client.logged kind = (loopLines client.log.toList).countP kind := by
  rw [logged, loopLines, List.countP_map, List.countP_filter]
  refine List.countP_congr fun event _ => ?_
  rw [Function.comp_apply, Bool.and_eq_true]
  exact ⟨fun held => ⟨held, own event held⟩, And.left⟩

/-- Only the loop reports the ends of polls. -/
theorem isFromLoop_of_isReport (event : Event) (report : event.line.isReport = true) :
    event.isFromLoop = true := by
  cases event with
  | initialized | published | pollFailed | snapshotDiscarded | notPublished | loopExited => rfl
  | _ => exact absurd report (by simp [Line.isReport, Line.isWarning, Event.line, Event.message])

/-- A kind of line that is written once for each end of a kind is written as often as there are such ends. -/
theorem countP_narrate {kind : Line → Bool} {ending : PollEnd → Bool}
    (each : ∀ before last, (told before last).countP kind = if ending last then 1 else 0)
    (ends : List PollEnd) : (narrate ends).countP kind = ends.countP ending := by
  induction ends using List.reverseRecOn with
  | nil => rfl
  | append_singleton ends last ih =>
    rw [narrate_concat, List.countP_append, List.countP_append, ih, each, List.countP_singleton]

/-- A poll that has failed is told by one warning. -/
theorem countP_isWarning_told (before : List PollEnd) (last : PollEnd) :
    (told before last).countP Line.isWarning = if last.isFailed then 1 else 0 := by
  cases last with
  | published snapshot =>
    rw [told]
    split
    · rfl
    · rfl
  | failed | discarded | panicked => rfl

/-- A poll that has failed or brought a snapshot that was taken is told by one report. -/
theorem countP_isReport_told (before : List PollEnd) (last : PollEnd) :
    (told before last).countP Line.isReport = if last.isPublished || last.isFailed then 1 else 0 := by
  cases last with
  | published snapshot =>
    rw [told]
    split
    · rfl
    · rfl
  | failed | discarded | panicked => rfl

/-- No end is both a snapshot that was taken and a failure. -/
theorem countP_isPublished_or_isFailed (ends : List PollEnd) :
    ends.countP (fun last => last.isPublished || last.isFailed) =
      ends.countP isPublished + ends.countP isFailed := by
  induction ends with
  | nil => rfl
  | cons last ends ih =>
    rw [List.countP_cons, List.countP_cons, List.countP_cons, ih]
    cases last with
    | published => exact Nat.add_right_comm _ _ 1
    | failed => exact Nat.add_assoc _ _ 1
    | discarded | panicked => rfl

/-- The loop writes nothing about the end of a poll that says that it is left. -/
theorem not_mem_narrate {line : Line} (exit : line.message = "Poll loop exited") (ends : List PollEnd) :
    line ∉ narrate ends := by
  have none : (narrate ends).countP (fun line => line.message = "Poll loop exited") =
      ends.countP fun _ => false := by
    refine countP_narrate (fun before last => ?_) ends
    cases last with
    | published snapshot =>
      rw [told]
      split
      · rfl
      · rfl
    | failed | discarded | panicked => rfl
  rw [List.countP_false] at none
  intro member
  exact List.countP_eq_zero.mp none line member (decide_eq_true exit)

/-- What follows an element that is not in the first of two lists, if the second has one element at most. -/
theorem eq_nil_of_not_mem {Element : Type} {first second front back : List Element} {middle : Element}
    (split : first ++ second = front ++ middle :: back) (absent : middle ∉ first) (short : second.length ≤ 1) :
    back = [] := by
  rcases List.append_eq_append_iff.mp split with ⟨between, _, rest⟩ | ⟨between, whole, rest⟩
  · have length := congrArg List.length rest
    rw [List.length_append, List.length_cons] at length
    exact List.eq_nil_of_length_eq_zero (by omega)
  · cases between with
    | nil =>
      have length := congrArg List.length rest
      rw [List.nil_append, List.length_cons] at length
      exact List.eq_nil_of_length_eq_zero (by omega)
    | cons other between =>
      obtain ⟨rfl, _⟩ := List.cons.inj rest
      exact absurd (by simp [whole]) absent

/-- The line of a loop that is left is no report. -/
theorem countP_parting {kind : Line → Bool} (other : kind ⟨.debug, "Poll loop exited", []⟩ = false) (task : Task) :
    (parting task).countP kind = 0 := by
  unfold parting
  split
  · simp [other]
  · rfl

/-- The warnings in the log are the polls that have failed. -/
theorem Chronicled.logged_isWarning (kept : Chronicled ends client) :
    client.logged Line.isWarning = ends.countP isFailed := by
  have own : ∀ event : Event, event.line.isWarning = true → event.isFromLoop = true :=
    fun event warning => isFromLoop_of_isReport event (by simp [Line.isReport, warning])
  rw [logged_eq own, kept.lines, List.countP_append, countP_narrate countP_isWarning_told,
    countP_parting rfl, Nat.add_zero]

/-- The reports in the log are the polls that have failed or brought a snapshot that was taken. -/
theorem Chronicled.logged_isReport (kept : Chronicled ends client) :
    client.logged Line.isReport = ends.countP isPublished + ends.countP isFailed := by
  rw [logged_eq isFromLoop_of_isReport, kept.lines, List.countP_append, countP_narrate countP_isReport_told,
    countP_parting rfl, Nat.add_zero, countP_isPublished_or_isFailed]

/-- Once the loop has been left it writes nothing more. -/
theorem Chronicled.loopLines_eq_nil {front back : List Event} (kept : Chronicled ends client)
    (split : client.log.toList = front ++ .loopExited :: back) : loopLines back = [] := by
  have lines := kept.lines
  rw [split, loopLines_append] at lines
  have short : (parting client.task).length ≤ 1 := by
    unfold parting
    split
    · exact Nat.le_refl 1
    · exact Nat.zero_le 1
  exact eq_nil_of_not_mem lines.symm (not_mem_narrate rfl ends) short

end Counts

/-- A fetch is open only while it is in flight, or if it was taken away with its task. -/
theorem openFetches_eq_zero {task : Task} (idle : ∀ started cutOff, task ≠ .fetching started cutOff)
    (untroubled : task ≠ .ended (.panicked true)) (undropped : task ≠ .ended (.aborted true)) :
    task.openFetches = 0 := by
  cases task with
  | fetching started cutOff => exact absurd rfl (idle started cutOff)
  | ended how =>
    cases how with
    | finished => rfl
    | panicked inFlight =>
      cases inFlight with
      | true => exact absurd rfl untroubled
      | false => rfl
    | aborted inFlight =>
      cases inFlight with
      | true => exact absurd rfl undropped
      | false => rfl
  | absent | queued | sleeping => rfl

/-- If the source does not panic, the task panics in a poll only when the sequences are used up. -/
def LastsOut (client : Client) : Prop :=
  client.task = .ended (.panicked true) → client.store.current.sequence.toNat + 1 = greatestSequence

/-- A task that has not panicked in a poll lasts out. -/
theorem lastsOut_of_task (other : client.task ≠ .ended (.panicked true)) : LastsOut client :=
  fun same => absurd same other

/-- A client that publishes alone and whose source does not panic lasts out until the sequences are used up. -/
theorem lastsOut_step (calm : action ≠ .panic) (alone : ∀ snapshot, action ≠ .publish snapshot)
    (ordered : InSequence client) (stepped : client.step action = some next) (lasts : LastsOut client) :
    LastsOut next := by
  cases transition_of_step stepped with
  | answers result draw started cutOff fetching | cutsOff draw started cutOff fetching late =>
    refine lastsOut_of_task ?_
    rcases client.taskAfter_cases started draw with left | left | ⟨_, wake, left⟩ <;> simp [left]
  | overflows result draw started cutOff fetching last =>
    exact fun _ => (ordered (by simp [fetching])).symm.trans (nextSequence_of_last last)
  | panics => exact absurd rfl calm
  | publishes snapshot => exact absurd rfl (alone snapshot)
  | dropsRunning =>
    intro ended
    cases task : client.task with
    | ended how =>
      rw [task] at ended
      exact lasts (task.trans ended)
    | absent | queued | fetching | sleeping => simp [task, abortTask] at ended
  | starts | exits | begins => exact lastsOut_of_task (by simp [beginPoll])
  | calls | refuses | startFails | startsAgain | cancels | stopsIdle | stopsAgain | drains | leavesDrain
  | leavesQueue | awaits | notices | givesUp | elapses | dropsOther => exact lasts

/-- The log of a client tells its run, and the counters agree with the lines. -/
structure Chronicle (ends : List PollEnd) (client : Client) : Prop extends Chronicled ends client where
  /-- The polls that have failed are the warnings. -/
  errors : client.stats.pollErrorCount = UInt64.ofNat (client.logged Line.isWarning)
  /-- The polls that have begun are the reports and the poll that has not come to an end. -/
  polls : client.stats.pollCount = UInt64.ofNat (client.logged Line.isReport + client.task.openFetches)
  /-- So while no fetch is in flight the polls are the reports, unless the sequences are used up or the client
  was dropped in the middle of a fetch. -/
  rested : (∀ started cutOff, client.task ≠ .fetching started cutOff) → client.task ≠ .ended (.aborted true) →
    ends.countP isPublished + 1 < greatestSequence →
    client.stats.pollCount = UInt64.ofNat (client.logged Line.isReport)
  /-- The loop is left once at most, and writes nothing after that. -/
  last : ∀ front back, client.log.toList = front ++ .loopExited :: back → loopLines back = []

/-- In every reachable state of a client that publishes alone and whose source does not panic, the lines of the
poll loop are a function of the ends of the polls, and the counters agree with the lines. -/
theorem log_tells_run (config : Config) (timerStep : Nat) (actions : List Action) (client : Client)
    (ran : (initial config timerStep).run actions = some client)
    (alone : ∀ snapshot, .publish snapshot ∉ actions) (calm : .panic ∉ actions) :
    Chronicle ((initial config timerStep).pollEnds actions) client := by
  have apart : ∀ action ∈ actions, ∀ snapshot, action ≠ .publish snapshot :=
    fun action member snapshot same => alone snapshot (same ▸ member)
  have kept := chronicled_run apart (orderly_initial config timerStep) (inSequence_initial config timerStep) ran
    (chronicled_initial config timerStep)
  have accounted := accounted_run (orderly_initial config timerStep) ran (accounted_initial config timerStep)
  have lasts : InSequence client ∧ LastsOut client :=
    run_keeps (fun middle => InSequence middle ∧ LastsOut middle)
      (fun action => action ≠ .panic ∧ ∀ snapshot, action ≠ .publish snapshot)
      (fun allowed stepped held => ⟨inSequence_step allowed.2 stepped held.1,
        lastsOut_step allowed.1 allowed.2 held.1 stepped held.2⟩)
      (fun action member => ⟨fun same => calm (same ▸ member), apart action member⟩) ran
      ⟨inSequence_initial config timerStep, lastsOut_of_task (by simp [initial])⟩
  rw [List.nil_append] at kept accounted
  generalize (initial config timerStep).pollEnds actions = ends at kept accounted
  obtain ⟨counted, failed, balance, _⟩ := accounted
  have polls : client.stats.pollCount = UInt64.ofNat (client.logged Line.isReport + client.task.openFetches) := by
    rw [kept.logged_isReport, show client.stats.pollCount = _ from counted, balance, kept.sequenced.whole, Nat.add_zero]
  refine ⟨kept, ?_, polls, fun idle undropped left => ?_, fun front back split => kept.loopLines_eq_nil split⟩
  · rw [kept.logged_isWarning]
    exact failed
  · have untroubled : client.task ≠ .ended (.panicked true) := by
      intro ended
      have last := lasts.2 ended
      rw [kept.sequenced.visible] at last
      exact absurd last (Nat.ne_of_lt left)
    rw [polls, openFetches_eq_zero idle untroubled undropped, Nat.add_zero]

/-- A failure comes before the first snapshot, one is cut off between two snapshots, and then the client is
stopped. -/
def fourPolls : List Action :=
  [.call 0 .start, .takeLock, .resume, .answer (.error .unauthorized) .half,
    .elapse 30000000000, .resume, .answer (.ok .empty) .half,
    .elapse 30000000000, .resume, .elapse 10000000000, .cutOff .half,
    .elapse 20000000000, .resume, .answer (.ok .empty) .half,
    .call 1 .stop, .takeLock, .resume]

/-- The four polls are told by four lines and the exit by one, and the counters are four and two. -/
theorem log_tells_run_fourPolls :
    ∃ client, (initial .default 1).run fourPolls = some client ∧ (∀ snapshot, .publish snapshot ∉ fourPolls) ∧
      .panic ∉ fourPolls ∧
      (loopLines client.log.toList).map (·.message) =
        ["Flag poll failed, serving previous snapshot", "Runtime flags initialized",
          "Flag poll failed, serving previous snapshot", "Published flag snapshot", "Poll loop exited"] ∧
      client.stats.pollCount = 4 ∧ client.logged Line.isReport = 4 ∧ client.stats.pollErrorCount = 2 ∧
      client.logged Line.isWarning = 2 := by
  have facts : ((initial .default 1).run fourPolls).map (fun client =>
      (client.task, client.logged Line.isReport, client.logged Line.isWarning)) =
      some (.ended .finished, 4, 2) := by
    decide
  obtain ⟨client, ran, facts⟩ := Option.map_eq_some_iff.mp facts
  obtain ⟨finished, facts⟩ := Prod.mk.inj facts
  obtain ⟨reports, warnings⟩ := Prod.mk.inj facts
  have alone : ∀ snapshot, .publish snapshot ∉ fourPolls := by simp [fourPolls]
  have calm : .panic ∉ fourPolls := by simp [fourPolls]
  have chronicle := log_tells_run .default 1 fourPolls client ran alone calm
  have told := congrArg (List.map (·.message)) chronicle.lines
  have polls := chronicle.rested (by simp [finished]) (by simp [finished]) (by decide)
  have errors := chronicle.errors
  rw [finished] at told
  rw [reports] at polls
  rw [warnings] at errors
  exact ⟨client, ran, alone, calm, told.trans (by decide), polls, reports, errors, warnings⟩

end Client

end LiveFlags
