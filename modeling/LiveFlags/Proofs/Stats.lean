import LiveFlags.Stats
import Mathlib.Algebra.Group.Nat.Defs
import Mathlib.Data.List.DropRight
import Mathlib.Data.List.Induction

/-!
# Poll statistics as the summary of a history

The counters that a tracker keeps call by call are a function of the list of calls (`ofHistory_eq_summary`): one step
appends one entry to the list (`enter_summary`). What the tracker says at an instant follows from the list alone
(`summarizes_history`).
-/
namespace LiveFlags.Tracker

/-- What is recorded by one call. -/
inductive Call where
  /-- A poll begins. -/
  | attempt
  /-- A snapshot with so many flags has been published. -/
  | success (flagCount : Nat)
  /-- A poll has failed. -/
  | failure (failure : PollFailure)

/-- A call and the time at which it was made, on both clocks. -/
structure Entry where
  /-- What was recorded. -/
  call : Call
  /-- The time on the wall clock. -/
  wall : Timestamp
  /-- The time on the monotonic clock. -/
  instant : Instant

namespace Entry

/-- Whether a poll began. -/
def isAttempt (entry : Entry) : Bool :=
  match entry.call with
  | .attempt => true
  | _ => false

/-- The number of flags of a success. -/
def flagCount? (entry : Entry) : Option Nat :=
  match entry.call with
  | .success flagCount => some flagCount
  | _ => none

/-- The word for a failure. -/
def reason? (entry : Entry) : Option String :=
  match entry.call with
  | .failure failure => some failure.reason
  | _ => none

/-- Whether a snapshot was published. -/
def isSuccess (entry : Entry) : Bool := entry.flagCount?.isSome

/-- Whether a poll failed. -/
def isFailure (entry : Entry) : Bool := entry.reason?.isSome

end Entry

/-- Makes one call. -/
def enter (tracker : Tracker) (entry : Entry) : Tracker :=
  match entry.call with
  | .attempt => tracker.recordAttempt entry.wall
  | .success flagCount => tracker.recordSuccess flagCount entry.wall entry.instant
  | .failure failure => tracker.recordFailure failure

/-- The tracker after a list of calls. -/
def ofHistory (entries : List Entry) : Tracker := entries.foldl enter initial

section Summary

/-- How many polls have begun. -/
def attempts (entries : List Entry) : Nat := entries.countP Entry.isAttempt

/-- How many polls have failed. -/
def failures (entries : List Entry) : Nat := entries.countP Entry.isFailure

/-- The last call that began a poll. -/
def lastAttempt? (entries : List Entry) : Option Entry := (entries.filter Entry.isAttempt).getLast?

/-- The last success. -/
def lastSuccess? (entries : List Entry) : Option Entry := (entries.filter Entry.isSuccess).getLast?

/-- The calls since the last success. -/
def sinceSuccess (entries : List Entry) : List Entry := entries.rtakeWhile fun entry => !entry.isSuccess

/-- The words for the failures since the last success. -/
def streak (entries : List Entry) : List String := (sinceSuccess entries).filterMap Entry.reason?

/-- The counters that a history stands for. -/
def summary (entries : List Entry) : Tracker where
  pollCount := .ofNat (attempts entries)
  pollErrorCount := .ofNat (failures entries)
  lastPollAt := (lastAttempt? entries).map Entry.wall
  lastSuccessfulPollAt := (lastSuccess? entries).map Entry.wall
  lastSuccess := (lastSuccess? entries).map Entry.instant
  flagCount := ((lastSuccess? entries).bind Entry.flagCount?).getD 0
  consecutiveFailures := .ofNat (min (2 ^ 32 - 1) (streak entries).length)
  lastError := (streak entries).getLast?

end Summary

section Step

variable (entries : List Entry) (entry : Entry)

/-- One more call counts if it begins a poll. -/
theorem attempts_concat : attempts (entries ++ [entry]) = attempts entries + if entry.isAttempt then 1 else 0 := by
  simp [attempts, List.countP_cons]

/-- One more call counts if it is a failure. -/
theorem failures_concat : failures (entries ++ [entry]) = failures entries + if entry.isFailure then 1 else 0 := by
  simp [failures, List.countP_cons]

/-- One more call is the last that began a poll, or else the one before is. -/
theorem lastAttempt?_concat :
    lastAttempt? (entries ++ [entry]) = if entry.isAttempt then some entry else lastAttempt? entries := by
  unfold lastAttempt?
  by_cases attempt : entry.isAttempt <;> simp [List.filter_append, attempt]

/-- One more call is the last success, or else the one before is. -/
theorem lastSuccess?_concat :
    lastSuccess? (entries ++ [entry]) = if entry.isSuccess then some entry else lastSuccess? entries := by
  unfold lastSuccess?
  by_cases success : entry.isSuccess <;> simp [List.filter_append, success]

/-- A success ends the streak of failures; any other call may add to it. -/
theorem streak_concat :
    streak (entries ++ [entry]) = if entry.isSuccess then [] else streak entries ++ entry.reason?.toList := by
  unfold streak sinceSuccess
  by_cases success : entry.isSuccess
  · simp [success]
  · cases reason : entry.reason? <;> simp [success, reason]

/-- One more failure in a row counts until the greatest count is reached. -/
theorem succ_streak (failures : Nat) :
    (if (UInt32.ofNat (min (2 ^ 32 - 1) failures)).toNat + 1 < 4294967296 then
      UInt32.ofNat (min (2 ^ 32 - 1) failures) + 1 else UInt32.ofNat (min (2 ^ 32 - 1) failures)) =
        UInt32.ofNat (min (2 ^ 32 - 1) (failures + 1)) := by
  have small : min (2 ^ 32 - 1) failures < 2 ^ 32 := by omega
  rw [UInt32.toNat_ofNat_of_lt' small]
  by_cases below : failures < 2 ^ 32 - 1
  · rw [if_pos (by omega), Nat.min_eq_right (by omega), Nat.min_eq_right (by omega), UInt32.ofNat_add]
    rfl
  · rw [if_neg (by omega), Nat.min_eq_left (by omega), Nat.min_eq_left (by omega)]

/-- A call takes the counters of a history to those of the history with that call. -/
theorem enter_summary : (summary entries).enter entry = summary (entries ++ [entry]) := by
  obtain ⟨call, wall, instant⟩ := entry
  unfold summary
  rw [attempts_concat, failures_concat, lastAttempt?_concat, lastSuccess?_concat, streak_concat]
  cases call with
  | attempt =>
    simp [enter, recordAttempt, Entry.isAttempt, Entry.isFailure, Entry.isSuccess, Entry.flagCount?, Entry.reason?]
  | success flagCount =>
    simp [enter, recordSuccess, Entry.isAttempt, Entry.isFailure, Entry.isSuccess, Entry.flagCount?, Entry.reason?]
  | failure failure =>
    simp only [enter, recordFailure, Entry.isAttempt, Entry.isFailure, Entry.isSuccess, Entry.flagCount?,
      Entry.reason?, Option.isSome_none, Option.isSome_some, Bool.false_eq_true, if_false, if_true, Nat.add_zero,
      Option.toList_some, List.length_append, List.length_singleton, List.getLast?_concat, succ_streak,
      UInt64.ofNat_add]
    rfl

end Step

/-- The counters after a history are those that it stands for. -/
theorem ofHistory_eq_summary (entries : List Entry) : ofHistory entries = summary entries := by
  induction entries using List.reverseRecOn with
  | nil => rfl
  | append_singleton entries entry ih =>
    have last : ofHistory (entries ++ [entry]) = (ofHistory entries).enter entry := by
      rw [ofHistory, List.foldl_append]
      rfl
    rw [last, ih, enter_summary]

/-- A call of some kind is the last of that kind just if there is one. -/
theorem isSome_getLast?_filter (kind : Entry → Bool) (entries : List Entry) :
    (entries.filter kind).getLast?.isSome ↔ ∃ entry ∈ entries, kind entry := by
  rw [List.getLast?_isSome, ne_eq, List.filter_eq_nil_iff]
  simp

/-- The failures in a row are among all failures. -/
theorem length_streak_le (entries : List Entry) : (streak entries).length ≤ failures entries := by
  have counted : (streak entries).length = (sinceSuccess entries).countP Entry.isFailure :=
    List.length_filterMap_eq_countP
  have part : (sinceSuccess entries).Sublist entries := (List.rtakeWhile_suffix _ _).sublist
  rw [counted]
  exact part.countP_le

/-- The health that a streak of failures means. -/
theorem ofStreak_iff (failures : UInt32) :
    (Health.ofStreak failures = .healthy ↔ failures.toNat = 0) ∧
      (Health.ofStreak failures = .degraded ↔ 1 ≤ failures.toNat ∧ failures.toNat ≤ 2) ∧
        (Health.ofStreak failures = .unhealthy ↔ 3 ≤ failures.toNat) := by
  have three : unhealthyThreshold ≤ failures ↔ 3 ≤ failures.toNat := UInt32.le_iff_toNat_le
  have one : 1 ≤ failures ↔ 1 ≤ failures.toNat := UInt32.le_iff_toNat_le
  unfold Health.ofStreak
  simp only [three, one]
  by_cases many : 3 ≤ failures.toNat
  · simp only [if_pos many, reduceCtorEq, false_iff, true_iff]
    omega
  · by_cases some : 1 ≤ failures.toNat
    · simp only [if_neg many, if_pos some, reduceCtorEq, false_iff, true_iff]
      omega
    · simp only [if_neg many, if_neg some, reduceCtorEq, false_iff, true_iff]
      omega

/-- The time up to an instant that the clock can name is told exactly. -/
theorem nanos_elapsed (start : Instant) {finish : Instant} (named : finish < Instant.limit) :
    (Instant.elapsed start finish).nanos = finish - start :=
  Nat.min_eq_left ((Nat.sub_le _ _).trans (named.le.trans (by decide)))

/-- The next poll after a history is one more than there have been. -/
theorem pollCount_recordAttempt (entries : List Entry) (wall : Timestamp) :
    ((ofHistory entries).recordAttempt wall).pollCount = UInt64.ofNat (attempts entries + 1) := by
  rw [ofHistory_eq_summary, UInt64.ofNat_add]
  rfl

/-- The age of the cache after a history is the time since the last success. -/
theorem cacheAge_of_lastSuccess? {entries : List Entry} {success : Entry} (last : lastSuccess? entries = some success)
    (now : Instant) : ((summary entries).stats now).cacheAge = some (Instant.elapsed success.instant now) := by
  simp only [stats, summary, last, Option.map_some]

/-- What is said at an instant is the summary of a history. -/
structure Summarizes (stats : Stats) (entries : List Entry) (now : Instant) : Prop where
  /-- Every poll that began is counted. -/
  pollCount : stats.pollCount.toNat = attempts entries
  /-- The number of a poll is its place among those that began. -/
  numbered : ∀ before entry after, entries = before ++ entry :: after → entry.isAttempt →
    ((ofHistory before).recordAttempt entry.wall).pollCount.toNat = attempts before + 1
  /-- Every failure is counted. -/
  pollErrorCount : stats.pollErrorCount.toNat = failures entries
  /-- The failures since the last success are counted up to the greatest count. -/
  consecutiveFailures : stats.consecutiveFailures.toNat = min (2 ^ 32 - 1) (streak entries).length
  /-- The error is the word for the last of them. -/
  lastError : stats.lastError = (streak entries).getLast?
  /-- The number of flags is that of the last success. -/
  flagCount : stats.flagCount = ((lastSuccess? entries).bind Entry.flagCount?).getD 0
  /-- The last poll began when the call said so. -/
  lastPollAt : stats.lastPollAt = (lastAttempt? entries).map Entry.wall
  /-- The time of the last poll is set if there was one. -/
  polled : stats.lastPollAt.isSome ↔ ∃ entry ∈ entries, entry.isAttempt
  /-- The last success came when the call said so. -/
  lastSuccessfulPollAt : stats.lastSuccessfulPollAt = (lastSuccess? entries).map Entry.wall
  /-- The time of the last success is set if there was one. -/
  succeeded : stats.lastSuccessfulPollAt.isSome ↔ ∃ entry ∈ entries, entry.isSuccess
  /-- The age of the cache is set if there was a success. -/
  aged : stats.cacheAge.isSome ↔ ∃ entry ∈ entries, entry.isSuccess
  /-- The age of the cache is the time since the last success. -/
  cacheAge : ∀ success, lastSuccess? entries = some success →
    ∃ age, stats.cacheAge = some age ∧ success.instant + age.nanos = now
  /-- There is an error if the last calls are failures. -/
  failing : stats.lastError.isSome ↔ 0 < stats.consecutiveFailures
  /-- The failures in a row are among all failures. -/
  bounded : stats.consecutiveFailures.toNat ≤ stats.pollErrorCount.toNat
  /-- A client is healthy after no failure. -/
  healthy : stats.health = .healthy ↔ (streak entries).length = 0
  /-- A client is degraded after one failure or two. -/
  degraded : stats.health = .degraded ↔ 1 ≤ (streak entries).length ∧ (streak entries).length ≤ 2
  /-- A client is unhealthy after three failures or more. -/
  unhealthy : stats.health = .unhealthy ↔ 3 ≤ (streak entries).length

/-- Whatever is recorded in whatever order, the tracker says at any later instant just what the history of the calls
means. -/
theorem summarizes_history (entries : List Entry) (now : Instant) (past : ∀ entry ∈ entries, entry.instant ≤ now)
    (named : now < Instant.limit) (attempted : attempts entries < 2 ^ 64) (failed : failures entries < 2 ^ 64) :
    Summarizes ((ofHistory entries).stats now) entries now := by
  have few : min (2 ^ 32 - 1) (streak entries).length < 2 ^ 32 := by omega
  have errors : (UInt64.ofNat (failures entries)).toNat = failures entries := UInt64.toNat_ofNat_of_lt' failed
  have inRow : (UInt32.ofNat (min (2 ^ 32 - 1) (streak entries).length)).toNat =
    min (2 ^ 32 - 1) (streak entries).length := UInt32.toNat_ofNat_of_lt' few
  have health := ofStreak_iff (UInt32.ofNat (min (2 ^ 32 - 1) (streak entries).length))
  rw [inRow] at health
  obtain ⟨healthy, degraded, unhealthy⟩ := health
  rw [ofHistory_eq_summary]
  constructor
  case pollCount => exact UInt64.toNat_ofNat_of_lt' attempted
  case numbered =>
    rintro before entry after rfl attempt
    have among : attempts before + 1 ≤ attempts (before ++ entry :: after) := by
      simp [attempts, attempt]
    rw [pollCount_recordAttempt]
    exact UInt64.toNat_ofNat_of_lt' (among.trans_lt attempted)
  case pollErrorCount => exact errors
  case consecutiveFailures => exact inRow
  case lastError => rfl
  case flagCount => rfl
  case lastPollAt => rfl
  case polled =>
    rw [← isSome_getLast?_filter]
    exact Bool.eq_iff_iff.mp Option.isSome_map
  case lastSuccessfulPollAt => rfl
  case succeeded =>
    rw [← isSome_getLast?_filter]
    exact Bool.eq_iff_iff.mp Option.isSome_map
  case aged =>
    rw [← isSome_getLast?_filter]
    exact Bool.eq_iff_iff.mp (Option.isSome_map.trans Option.isSome_map)
  case cacheAge =>
    intro success last
    have earlier : success.instant ≤ now := past success (List.mem_of_mem_filter (List.mem_of_getLast? last))
    refine ⟨_, cacheAge_of_lastSuccess? last now, ?_⟩
    rw [nanos_elapsed success.instant named]
    exact Nat.add_sub_cancel' earlier
  case failing =>
    have some : ((summary entries).stats now).lastError.isSome ↔ 0 < (streak entries).length := by
      rw [List.length_pos_iff]
      exact List.getLast?_isSome
    rw [some, UInt32.lt_iff_toNat_lt]
    change _ ↔ 0 < (UInt32.ofNat (min (2 ^ 32 - 1) (streak entries).length)).toNat
    rw [inRow]
    omega
  case bounded =>
    have part := length_streak_le entries
    change (UInt32.ofNat (min (2 ^ 32 - 1) (streak entries).length)).toNat ≤ (UInt64.ofNat (failures entries)).toNat
    rw [inRow, errors]
    omega
  case healthy => exact healthy.trans (by omega)
  case degraded => exact degraded.trans (by omega)
  case unhealthy => exact unhealthy.trans (by omega)

/-- A success and two failures after it: the first snapshot is still there, and the client is degraded. -/
theorem summarizes_history_twoFailures :
    let call (millis : Nat) (made : Call) : Entry := ⟨made, .ofNanos (millis * 1000000), millis * 1000000⟩
    let entries := [call 0 .attempt, call 5 (.success 3), call 100 .attempt, call 150 (.failure .timeout),
      call 200 .attempt, call 210 (.failure (.fetch "refused"))]
    let now := 250 * 1000000
    Summarizes ((ofHistory entries).stats now) entries now ∧
      (ofHistory entries).stats now =
        ⟨3, 2, some (.ofNanos (200 * 1000000)), some (.ofNanos (5 * 1000000)), some ⟨245 * 1000000, by decide⟩, 3, 2,
          some "fetch_error"⟩ ∧
      ((ofHistory entries).stats now).health = .degraded := by
  intro call entries now
  exact ⟨summarizes_history entries now (by decide) (by decide) (by decide) (by decide), by decide, by decide⟩

end LiveFlags.Tracker
