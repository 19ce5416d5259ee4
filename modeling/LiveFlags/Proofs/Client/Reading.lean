import LiveFlags.Client.Evaluate
import LiveFlags.Proofs.Client.Transition
import LiveFlags.Proofs.Machine

/-!
# Reading flags

All ways to read a flag go back to one look-up: for every key and every default the getters say the same
about whether the flag is there and what it holds (`Consistent`). Reading leaves no trace but its warnings. A
`Session` is a client that is used, with those who watch its publications; leaving all evaluations out of a
session changes nothing that is left of it but these warnings (`run_mute`).
-/
namespace LiveFlags

/-- The event is a warning of an evaluation. -/
def Event.isEvaluation : Event → Bool
  | .notBoolean _ _ | .notText _ _ => true
  | _ => false

namespace Client

/-- A call that evaluates flags or reads what is there. -/
inductive Query where
  /-- The value of a flag. -/
  | value (key : String)
  /-- The value of a flag, or a default. -/
  | get (key : String) (fallback : FlagValue)
  /-- Whether a flag is on. -/
  | isEnabled (key : String)
  /-- Whether a flag is on, or a default. -/
  | bool (key : String) (fallback : Bool)
  /-- The text of a flag, or a default. -/
  | text (key fallback : String)
  /-- A flag as plain JSON, or a default. -/
  | json (key : String) (fallback : Json.Value)
  /-- Every visible flag. -/
  | allFlags
  /-- The visible snapshot. -/
  | snapshot
  /-- The statistics. -/
  | stats

/-- The client after a call that evaluates flags. -/
def ask (client : Client) : Query → Client
  | .bool key fallback => (client.getBool key fallback).2
  | .text key fallback => (client.getText key fallback).2
  | .value _ | .get _ _ | .isEnabled _ | .json _ _ | .allFlags | .snapshot | .stats => client

/-- The client without the warnings of evaluations in its log. -/
def mute (client : Client) : Client :=
  { client with log := client.log.filter fun event => !event.isEvaluation }

/-- The warning that a flag is of another kind than a truth value. -/
def notBooleanLine (key kind : String) : Line :=
  ⟨.warn, "Flag value is not a boolean, using default",
    [("flag_key", .text key),
      ("error", .text ("Invalid value type for flag " ++ key ++ ": expected boolean, got " ++ kind))]⟩

/-- The warning that a flag is of another kind than a text. -/
def notTextLine (key kind : String) : Line :=
  ⟨.warn, "Flag value is not a string, using default", [("flag_key", .text key), ("actual_type", .text kind)]⟩

/-- What the ways to read one flag say of it. -/
structure Consistent (client : Client) (key : String) : Prop where
  /-- A flag has a value exactly if it stands among all flags with this value. -/
  listed : ∀ value, client.getValue? key = some value ↔ (key, value) ∈ client.allFlags.entries
  /-- The snapshot has the same value, -/
  visible : client.snapshot.get? key = client.getValue? key
  /-- and holds the flag exactly if there is a value. -/
  held : client.snapshot.contains key = true ↔ ∃ value, client.getValue? key = some value
  /-- With a default one gets the value, or else the default. -/
  gets : ∀ fallback, client.get key fallback = (client.getValue? key).getD fallback
  /-- The flag is on or off exactly if its value is of this kind. -/
  enabled : ∀ on, client.isEnabled key = .ok on ↔ client.getValue? key = some (.boolean on)
  /-- It is not found exactly if it is not there. -/
  absent : client.isEnabled key = .error (.notFound key) ↔ client.getValue? key = none
  /-- It is said to be a text exactly if it is one, -/
  mismatchedText : client.isEnabled key = .error (.typeMismatch key "boolean" "string") ↔
    ∃ text, client.getValue? key = some (.text text)
  /-- and JSON exactly if it is neither on or off nor a text. -/
  mismatchedJson : client.isEnabled key = .error (.typeMismatch key "boolean" "json") ↔
    ∃ value, client.getValue? key = some (.json value)
  /-- There is no other error. -/
  complete : ∀ error, client.isEnabled key = .error error →
    error = .notFound key ∨ error = .typeMismatch key "boolean" "string" ∨ error = .typeMismatch key "boolean" "json"
  /-- As a truth value the flag is what it is enabled to, or the default upon any error. -/
  bool : ∀ fallback, (client.getBool key fallback).1 =
    match client.isEnabled key with
    | .ok on => on
    | .error _ => fallback
  /-- As a text the flag is a text, whatever the default, exactly if its value is this text. -/
  text : ∀ text, client.getValue? key = some (.text text) ↔
    ∀ fallback, (client.getText key fallback).1 = text
  /-- If its value is no text, the default takes its place. -/
  textDefault : (∀ text, client.getValue? key ≠ some (.text text)) →
    ∀ fallback, (client.getText key fallback).1 = fallback
  /-- As JSON the flag is its value as JSON, or else the default. -/
  json : ∀ fallback, client.getJson key fallback =
    match client.getValue? key with
    | some (.boolean on) => .bool on
    | some (.text text) => .string text
    | some (.json value) => value
    | none => fallback
  /-- Asking for a truth value adds one warning exactly if the flag is there and of another kind, which the warning
  names, and nothing otherwise. -/
  boolWarns : ∀ fallback, ∃ events, (client.getBool key fallback).2 = client.logging events ∧
    events.map Event.line =
      match client.getValue? key with
      | some (.text _) => [notBooleanLine key "string"]
      | some (.json _) => [notBooleanLine key "json"]
      | some (.boolean _) | none => []
  /-- Asking for a text does likewise. -/
  textWarns : ∀ fallback, ∃ events, (client.getText key fallback).2 = client.logging events ∧
    events.map Event.line =
      match client.getValue? key with
      | some (.boolean _) => [notTextLine key "boolean"]
      | some (.json _) => [notTextLine key "json"]
      | some (.text _) | none => []

section Agreement

variable (client : Client) (key : String)

/-- Whether a flag is on is decided by its value alone. -/
theorem isEnabled_eq : client.isEnabled key =
    match client.getValue? key with
    | some (.boolean on) => .ok on
    | some (.text _) => .error (.typeMismatch key "boolean" "string")
    | some (.json _) => .error (.typeMismatch key "boolean" "json")
    | none => .error (.notFound key) := by
  unfold isEnabled Snapshot.isEnabled getValue?
  cases client.snapshot.get? key with
  | none => rfl
  | some value => cases value <;> rfl

/-- The warning of asking whether a flag is on is decided by its value alone. -/
theorem line_getBoolEvents : (client.snapshot.getBoolEvents key).map Event.line =
    match client.getValue? key with
    | some (.text _) => [notBooleanLine key "string"]
    | some (.json _) => [notBooleanLine key "json"]
    | some (.boolean _) | none => [] := by
  have message : ∀ kind, (EvaluationError.typeMismatch key "boolean" kind).message =
      "Invalid value type for flag " ++ key ++ ": expected boolean, got " ++ kind := by
    intro kind
    have words : ": expected boolean, got " = ": expected " ++ "boolean" ++ ", got " := rfl
    rw [words, ← String.append_assoc, ← String.append_assoc]
    rfl
  have decided := client.isEnabled_eq key
  unfold isEnabled at decided
  unfold Snapshot.getBoolEvents
  rw [decided]
  cases client.getValue? key with
  | none => rfl
  | some value =>
    cases value with
    | boolean => rfl
    | text | json => simp only [List.map_cons, List.map_nil, Event.line, Event.level, Event.message, Event.fields,
        message, notBooleanLine]

/-- The text of a flag, and the warning of asking for it, are decided by its value alone. -/
theorem getText_eq (fallback : String) : client.getText key fallback =
    match client.getValue? key with
    | some (.text text) => (text, client.logging [])
    | some (.boolean _) => (fallback, client.logging [.notText key "boolean"])
    | some (.json _) => (fallback, client.logging [.notText key "json"])
    | none => (fallback, client.logging []) := by
  unfold getText Snapshot.getText Snapshot.getTextEvents getValue?
  cases client.snapshot.get? key with
  | none => rfl
  | some value => cases value <;> rfl

/-- A flag is read as one text whatever the default exactly if its value is this text. -/
theorem getText_iff (text : String) :
    client.getValue? key = some (.text text) ↔ ∀ fallback, (client.getText key fallback).1 = text := by
  constructor
  · intro held fallback
    rw [getText_eq, held]
  · intro always
    -- a default that is longer than the text shows whether the default has been taken
    have longer : text ++ "." ≠ text := by
      intro same
      have length := congrArg String.length same
      rw [String.length_append] at length
      exact absurd length (by simp)
    have read := always (text ++ ".")
    rw [getText_eq] at read
    cases found : client.getValue? key with
    | none =>
      rw [found] at read
      exact absurd read longer
    | some value =>
      rw [found] at read
      cases value with
      | text text' => exact congrArg (fun text => some (FlagValue.text text)) read
      | boolean | json => exact absurd read longer

/-- All ways to read a flag say the same of it, in every state. -/
theorem consistent : Consistent client key where
  listed value := Table.get?_eq_some_iff
  visible := rfl
  held := Option.isSome_iff_exists
  gets fallback := rfl
  enabled on := by
    rw [isEnabled_eq]
    split <;> simp [*]
  absent := by
    rw [isEnabled_eq]
    split <;> simp [*]
  mismatchedText := by
    rw [isEnabled_eq]
    split <;> simp [*]
  mismatchedJson := by
    rw [isEnabled_eq]
    split <;> simp [*]
  complete error refused := by
    rw [isEnabled_eq] at refused
    split at refused
    · contradiction
    · exact .inr (.inl (Except.error.inj refused).symm)
    · exact .inr (.inr (Except.error.inj refused).symm)
    · exact .inl (Except.error.inj refused).symm
  bool fallback := rfl
  text := client.getText_iff key
  textDefault none fallback := by
    rw [getText_eq]
    split
    · rename_i text found
      exact absurd found (none text)
    · rfl
    · rfl
    · rfl
  json fallback := by
    unfold getJson Snapshot.getJson getValue?
    cases client.snapshot.get? key with
    | none => rfl
    | some value => cases value <;> rfl
  boolWarns fallback := ⟨client.snapshot.getBoolEvents key, rfl, client.line_getBoolEvents key⟩
  textWarns fallback := by
    rw [getText_eq]
    cases client.getValue? key with
    | none => exact ⟨[], rfl, rfl⟩
    | some value =>
      cases value with
      | text text => exact ⟨[], rfl, rfl⟩
      | boolean on => exact ⟨[.notText key "boolean"], rfl, rfl⟩
      | json value => exact ⟨[.notText key "json"], rfl, rfl⟩

end Agreement

section Mute

variable {client : Client}

/-- Events are muted as they are added to the log. -/
theorem mute_logging (client : Client) (events : List Event) :
    (client.logging events).mute = client.mute.logging (events.filter fun event => !event.isEvaluation) := by
  have log : ((client.log ++ events).filter fun event => !event.isEvaluation) =
      (client.log.filter fun event => !event.isEvaluation) ++ events.filter fun event => !event.isEvaluation := by
    apply Array.toList_inj.mp
    rw [Array.toList_filter, Array.toList_appendList, Array.toList_appendList, List.filter_append,
      Array.toList_filter]
  simp only [mute, logging, log]

/-- Events that are no warnings of evaluations are not muted. -/
theorem mute_logging_of_quiet {events : List Event} (quiet : ∀ event ∈ events, event.isEvaluation = false) :
    (client.logging events).mute = client.mute.logging events := by
  rw [mute_logging, List.filter_eq_self.mpr fun event member => by simp [quiet event member]]

/-- Warnings of evaluations are muted. -/
theorem mute_logging_of_warnings {events : List Event}
    (warnings : ∀ event ∈ events, event.isEvaluation = true) :
    (client.logging events).mute = client.mute := by
  rw [mute_logging, List.filter_eq_nil_iff.mpr fun event member => by simp [warnings event member]]
  simp [logging]

/-- An evaluation leaves nothing but warnings in the log. -/
theorem mute_ask (query : Query) : (client.ask query).mute = client.mute := by
  cases query with
  | bool key fallback =>
    refine mute_logging_of_warnings fun event member => ?_
    unfold Snapshot.getBoolEvents at member
    split at member
    · contradiction
    · contradiction
    · rw [List.mem_singleton.mp member, Event.isEvaluation]
  | text key fallback =>
    refine mute_logging_of_warnings fun event member => ?_
    unfold Snapshot.getTextEvents at member
    split at member
    · contradiction
    · rw [List.mem_singleton.mp member, Event.isEvaluation]
    · contradiction
  | value | get | isEnabled | json | allFlags | snapshot | stats => rfl

/-- One event that is no warning of an evaluation is not muted. -/
theorem mute_logging_singleton (client : Client) (event : Event) (quiet : event.isEvaluation = false) :
    (client.logging [event]).mute = client.mute.logging [event] :=
  mute_logging_of_quiet fun _ member => List.mem_singleton.mp member ▸ quiet

-- What is read of a client before something happens to it is the same once it is muted.

@[simp] theorem store_mute (client : Client) : client.mute.store = client.store := rfl

@[simp] theorem guarded_mute (client : Client) : client.mute.guarded = client.guarded := rfl

@[simp] theorem draining_mute (client : Client) : client.mute.draining = client.draining := rfl

@[simp] theorem queue_mute (client : Client) : client.mute.queue = client.queue := rfl

@[simp] theorem task_mute (client : Client) : client.mute.task = client.task := rfl

@[simp] theorem cancelled_mute (client : Client) : client.mute.cancelled = client.cancelled := rfl

@[simp] theorem now_mute (client : Client) : client.mute.now = client.now := rfl

@[simp] theorem waiters_mute (client : Client) : client.mute.waiters = client.waiters := rfl

@[simp] theorem isReady_mute (client : Client) : client.mute.isReady = client.isReady := rfl

@[simp] theorem dues_mute (client : Client) : client.mute.dues = client.dues := rfl

@[simp] theorem outcome_mute (client : Client) (result : Except FetchError FlagSet) :
    client.mute.outcome result = client.outcome result := rfl

@[simp] theorem sequenceAfter?_mute (client : Client) (outcome : PollOutcome) :
    client.mute.sequenceAfter? outcome = client.sequenceAfter? outcome := by
  cases outcome <;> rfl

@[simp] theorem beginPoll_mute (client : Client) : client.mute.beginPoll = client.beginPoll.mute := rfl

-- Each thing that can happen to a client is done to the muted client and muted after it has been done: what
-- decides is the same on both sides, and the events that are added are no warnings of evaluations.

theorem enterStart_mute (client : Client) (caller : Nat) :
    client.mute.enterStart caller = (client.enterStart caller).mute := by
  unfold enterStart
  rw [guarded_mute]
  cases client.guarded with
  | running => exact congrArg (answer · caller .done) (mute_logging_singleton client .alreadyRunning rfl).symm
  | stopped => exact congrArg (answer · caller .done) (mute_logging_singleton client .cannotRestart rfl).symm
  | idle =>
    dsimp only
    rw [store_mute]
    cases successor? client.store.current.sequence with
    | none => rfl
    | some sequence =>
      have started := mute_logging_singleton
        { client with
          nextSequence := sequence
          task := .queued
          cancelled := false
          guarded := .running
          status := .running } client.startedEvent rfl
      exact congrArg (answer · caller .done) started.symm

theorem enterStop_mute (client : Client) (caller : Nat) :
    client.mute.enterStop caller = (client.enterStop caller).mute := by
  unfold enterStop
  rw [guarded_mute]
  cases client.guarded with
  | running => rfl
  | stopped => rfl
  | idle =>
    have stopped := mute_logging_singleton { client with guarded := .stopped, status := .stopped }
      .stoppedBeforeStart rfl
    exact congrArg (answer · caller .done) stopped.symm

theorem takeLock_mute (client : Client) : client.mute.takeLock? = client.takeLock?.map mute := by
  unfold takeLock?
  rw [draining_mute, queue_mute]
  split
  · rename_i caller rest _ _
    exact congrArg some (enterStart_mute { client with queue := rest } caller)
  · rename_i caller rest _ _
    exact congrArg some (enterStop_mute { client with queue := rest } caller)
  · rfl

theorem drained_mute (client : Client) : client.mute.drained? = client.drained?.map mute := by
  unfold drained?
  rw [draining_mute, task_mute]
  split
  · rename_i caller how _ _
    have quiet : ∀ event ∈ drainedEvents how, event.isEvaluation = false := by
      cases how with
      | panicked => simp [drainedEvents, Event.isEvaluation]
      | finished | aborted => simp [drainedEvents, Event.isEvaluation]
    have stopped : (({ client with draining := none, status := .stopped } : Client).logging
        (drainedEvents how)).mute = _ := mute_logging_of_quiet quiet
    exact congrArg (fun client => some (answer client caller .done)) stopped.symm
  · rfl

theorem abandon_mute (client : Client) (caller : Nat) :
    client.mute.abandon? caller = (client.abandon? caller).map mute := by
  unfold abandon?
  rw [draining_mute, queue_mute]
  split
  · rfl
  · split
    · rfl
    · rfl

theorem exitLoop_mute (client : Client) : client.mute.exitLoop = client.exitLoop.mute :=
  (mute_logging_singleton { client with task := .ended .finished } .loopExited rfl).symm

theorem resume_mute (client : Client) : client.mute.resume? = client.resume?.map mute := by
  unfold resume?
  rw [task_mute, cancelled_mute, now_mute, exitLoop_mute, beginPoll_mute]
  split
  · split
    · rfl
    · rfl
  · split
    · rfl
    · split
      · rfl
      · rfl
  · rfl

/-- The store does not warn of evaluations. -/
theorem isEvaluation_publishEvents (store : Store) (snapshot : Snapshot) :
    ∀ event ∈ store.publishEvents snapshot, event.isEvaluation = false := by
  unfold Store.publishEvents
  split
  · simp
  · simp [Event.isEvaluation]

theorem publish_mute (client : Client) (snapshot : Snapshot) :
    client.mute.publish snapshot = (client.publish snapshot).mute := by
  have offered : (({ client with store := client.store.publish snapshot } : Client).logging
      (client.store.publishEvents snapshot)).mute = _ :=
    mute_logging_of_quiet (isEvaluation_publishEvents client.store snapshot)
  exact offered.symm

/-- The end of a poll brings no warning of an evaluation. -/
theorem isEvaluation_outcomeEvents (client : Client) (outcome : PollOutcome) (task : Task) :
    ∀ event ∈ client.outcomeEvents outcome ++ partingEvents task, event.isEvaluation = false := by
  have parting : ∀ event ∈ partingEvents task, event.isEvaluation = false := by
    unfold partingEvents
    split
    · simp [Event.isEvaluation]
    · simp
  refine List.forall_mem_append.mpr ⟨?_, parting⟩
  cases outcome with
  | failure failure => simp [outcomeEvents, Event.isEvaluation]
  | success snapshot =>
    refine List.forall_mem_append.mpr ⟨isEvaluation_publishEvents client.store snapshot, ?_⟩
    split
    · split
      · simp [Event.isEvaluation]
      · simp [Event.isEvaluation]
    · simp [Event.isEvaluation]

theorem finishPoll_mute (client : Client) (outcome : PollOutcome) (started : Instant) (draw : Draw) :
    client.mute.finishPoll outcome started draw = (client.finishPoll outcome started draw).mute := by
  have quiet := client.isEvaluation_outcomeEvents outcome (client.taskAfter started draw)
  have log : client.mute.log ++ (client.outcomeEvents outcome ++ partingEvents (client.taskAfter started draw)) =
      (client.afterPoll outcome started draw).mute.log :=
    congrArg Client.log (mute_logging_of_quiet quiet).symm
  rw [finishPoll_eq, finishPoll_eq]
  exact congrArg (fun log => { client.afterPoll outcome started draw with log := log }) log

theorem answered_mute (client : Client) (result : Except FetchError FlagSet) (draw : Draw) :
    client.mute.answered? result draw = (client.answered? result draw).map mute := by
  unfold answered?
  rw [task_mute, outcome_mute]
  split
  · rename_i started _ _
    dsimp only
    rw [sequenceAfter?_mute]
    cases client.sequenceAfter? (client.outcome result) with
    | none => rfl
    | some sequence =>
      exact congrArg some (finishPoll_mute { client with nextSequence := sequence } _ started draw)
  · rfl

theorem cutOff_mute (client : Client) (draw : Draw) :
    client.mute.cutOff? draw = (client.cutOff? draw).map mute := by
  unfold cutOff?
  rw [task_mute, now_mute]
  split
  · split
    · exact congrArg some (finishPoll_mute client _ _ draw)
    · rfl
  · rfl

theorem panicked_mute (client : Client) : client.mute.panicked? = client.panicked?.map mute := by
  unfold panicked?
  rw [task_mute]
  split
  · rfl
  · rfl

theorem notice_mute (client : Client) : client.mute.notice? = client.notice?.map mute := by
  unfold notice?
  rw [waiters_mute, isReady_mute]
  split
  · split
    · rfl
    · rfl
  · rfl

theorem giveUp_mute (client : Client) (caller : Nat) :
    client.mute.giveUp? caller = (client.giveUp? caller).map mute := by
  unfold giveUp?
  rw [waiters_mute, now_mute, isReady_mute]
  split
  · split
    · rfl
    · rfl
  · rfl

theorem elapse_mute (client : Client) (nanos : Nat) :
    client.mute.elapse? nanos = (client.elapse? nanos).map mute := by
  unfold elapse?
  rw [dues_mute, now_mute]
  split
  · rfl
  · rfl

theorem drop_mute (client : Client) : client.mute.drop? = client.drop?.map mute := by
  by_cases busy : client.draining.isSome ∨ client.queue ≠ [] ∨ client.waiters ≠ []
  · have kept : client.drop? = none := if_pos busy
    rw [kept]
    exact if_pos busy
  · unfold drop?
    rw [if_neg busy]
    refine (if_neg busy).trans ?_
    rw [guarded_mute]
    split
    · rfl
    · rfl

/-- Warnings of evaluations have no part in what can happen and what follows. -/
theorem step_mute (client : Client) (action : Action) :
    client.mute.step action = (client.step action).map mute := by
  cases action with
  | takeLock => exact takeLock_mute client
  | drained => exact drained_mute client
  | abandon caller => exact abandon_mute client caller
  | resume => exact resume_mute client
  | answer result draw => exact answered_mute client result draw
  | cutOff draw => exact cutOff_mute client draw
  | panic => exact panicked_mute client
  | publish snapshot => exact congrArg some (publish_mute client snapshot)
  | notice => exact notice_mute client
  | giveUp caller => exact giveUp_mute client caller
  | elapse nanos => exact elapse_mute client nanos
  | drop => exact drop_mute client
  | call | startOutside | await => rfl

end Mute

/-- A client in use, and those who watch its publications. -/
structure Session where
  /-- The client. -/
  client : Client
  /-- What each watcher has seen. -/
  watchers : List Subscription

/-- Something that happens in a session. -/
inductive Move where
  /-- Something happens to the client. -/
  | act (action : Action)
  /-- Somebody evaluates flags. -/
  | ask (query : Query)
  /-- Somebody begins to watch. -/
  | watch
  /-- A watcher looks. -/
  | look (watcher : Nat)

/-- The move evaluates no flags. -/
def Move.isAction : Move → Bool
  | .ask _ => false
  | _ => true

namespace Session

/-- What follows a move, if it can be made. -/
def move : Machine Session Move
  | session, .act action => (session.client.step action).map fun client => { session with client := client }
  | session, .ask query => some { session with client := session.client.ask query }
  | session, .watch => some { session with watchers := session.watchers ++ [session.client.store.subscribe] }
  | session, .look watcher =>
    some { session with watchers := session.watchers.modify watcher session.client.store.markSeen }

/-- The session without the warnings of evaluations in the log of the client. -/
def mute (session : Session) : Session := { session with client := session.client.mute }

/-- An evaluation leaves nothing but warnings, and any other move goes on as without them. -/
theorem move_mute (session : Session) (move : Move) :
    (session.move move).map mute =
      if move.isAction then session.mute.move move else some session.mute := by
  cases move with
  | act action =>
    simp only [Session.move, mute, step_mute, Move.isAction, ↓reduceIte, Option.map_map]
    rfl
  | ask query => exact congrArg (fun client => some (Session.mk client session.watchers)) (mute_ask query)
  | watch => rfl
  | look watcher => rfl

/-- A session without evaluations goes on as the one with them, but for their warnings. -/
theorem run_mute (session : Session) (moves : List Move) :
    (Machine.run move session moves).map mute =
      Machine.run move session.mute (moves.filter Move.isAction) := by
  induction moves generalizing session with
  | nil => rfl
  | cons first moves ih =>
    have moved := move_mute session first
    cases acts : first.isAction with
    | true =>
      rw [acts, if_pos rfl] at moved
      rw [List.filter_cons_of_pos acts, Machine.run, Machine.run, ← moved]
      cases session.move first with
      | none => rfl
      | some next => exact ih next
    | false =>
      rw [acts, if_neg Bool.false_ne_true] at moved
      obtain ⟨next, stepped, same⟩ := Option.map_eq_some_iff.mp moved
      rw [List.filter_cons_of_neg (by simp [acts]), Machine.run, stepped, ← same]
      exact ih next

end Session

/-- Reading is of one piece in every state: all ways to read a flag say the same of it, the numbers of flags
agree, and an evaluation leaves the store, the statistics and all that is to come as they would be without it. -/
theorem reading_consistent (session : Session) (moves : List Move) :
    (∀ key, Consistent session.client key) ∧
    session.client.stats.flagCount = session.client.snapshot.flagCount ∧
    session.client.snapshot.flagCount = session.client.allFlags.size ∧
    (∀ query, (session.client.ask query).store = session.client.store ∧
      (session.client.ask query).stats = session.client.stats) ∧
    (Machine.run Session.move session moves).map Session.mute =
      (Machine.run Session.move session (moves.filter Move.isAction)).map Session.mute := by
  refine ⟨session.client.consistent, rfl, rfl, fun query => ?_, ?_⟩
  · have store : (session.client.ask query).mute.store = session.client.mute.store := by rw [mute_ask]
    have stats : (session.client.ask query).mute.stats = session.client.mute.stats := by rw [mute_ask]
    exact ⟨store, stats⟩
  · rw [Session.run_mute, Session.run_mute, List.filter_filter]
    simp only [Bool.and_self]

/-- A client that shows a flag of each kind, and nobody who watches. -/
def threeKinds : Session :=
  ⟨{ initial .default 1 with
      store := Store.initial.publish (.ofSet ((((FlagSet.empty.withFlag "dark" (.boolean true)).withFlag "theme"
        (.text "blue")).withFlag "limits" (.json .null))) 7 .epoch) }, []⟩

/-- Somebody watches while the client is started and flags are evaluated. -/
def watching : List Move :=
  [.watch, .ask (.bool "limits" true), .act (.call 0 .start), .act .takeLock, .ask (.text "dark" ""), .look 0]

/-- Each of the three flags is read as what it is, a fourth one is not found, the wrong kinds are named in the errors
and in the warnings, and the client goes on as if no flag had been evaluated. -/
theorem reading_consistent_threeKinds :
    threeKinds.client.isEnabled "dark" = .ok true ∧
    threeKinds.client.isEnabled "theme" = .error (.typeMismatch "theme" "boolean" "string") ∧
    threeKinds.client.isEnabled "limits" = .error (.typeMismatch "limits" "boolean" "json") ∧
    threeKinds.client.isEnabled "gone" = .error (.notFound "gone") ∧
    threeKinds.client.getJson "theme" .null = .string "blue" ∧
    (∃ events, (threeKinds.client.getBool "limits" true).2 = threeKinds.client.logging events ∧
      events.map Event.line = [⟨.warn, "Flag value is not a boolean, using default", [("flag_key", .text "limits"),
        ("error", .text "Invalid value type for flag limits: expected boolean, got json")]⟩]) ∧
    (∃ events, (threeKinds.client.getText "dark" "").2 = threeKinds.client.logging events ∧
      events.map Event.line = [⟨.warn, "Flag value is not a string, using default",
        [("flag_key", .text "dark"), ("actual_type", .text "boolean")]⟩]) ∧
    threeKinds.client.stats.flagCount = threeKinds.client.allFlags.size ∧ threeKinds.client.allFlags.size = 3 ∧
    (Machine.run Session.move threeKinds watching).map Session.mute =
      (Machine.run Session.move threeKinds [.watch, .act (.call 0 .start), .act .takeLock, .look 0]).map
        Session.mute := by
  obtain ⟨consistent, shown, counted, _, onward⟩ := reading_consistent threeKinds watching
  have dark : threeKinds.client.getValue? "dark" = some (.boolean true) := by rfl
  have theme : threeKinds.client.getValue? "theme" = some (.text "blue") := by rfl
  have limits : threeKinds.client.getValue? "limits" = some (.json .null) := by rfl
  have gone : threeKinds.client.getValue? "gone" = none := by rfl
  have json := (consistent "theme").json .null
  have warnsBool := (consistent "limits").boolWarns true
  have warnsText := (consistent "dark").textWarns ""
  rw [theme] at json
  rw [limits] at warnsBool
  rw [dark] at warnsText
  exact ⟨((consistent "dark").enabled true).mpr dark, (consistent "theme").mismatchedText.mpr ⟨_, theme⟩,
    (consistent "limits").mismatchedJson.mpr ⟨_, limits⟩, (consistent "gone").absent.mpr gone, json, warnsBool,
    warnsText, shown.trans counted, by rfl, onward⟩

end Client

end LiveFlags
