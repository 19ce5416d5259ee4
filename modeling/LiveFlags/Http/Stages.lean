import LiveFlags.Http.Fetcher

/-!
# A fetch in stages

A fetch waits twice: for the head of an answer, and, unless the status says everything already, for the
body. It can be dropped while it waits. A `Course` is how far its exchange comes before that; a fetch whose
answer comes whole ends as `Pending.handle` says (`Pending.follow_complete`), and a fetch that is dropped
comes to nothing and leaves the fetcher as it is (`Fetcher.visit`).
-/
namespace LiveFlags.Http

/-- How far an exchange comes before the fetch has ended or has been dropped. -/
inductive Course where
  /-- Neither the head of an answer nor a fault has come. -/
  | silent
  /-- The transport has failed before the head of an answer had come. -/
  | faulty (fault : TransportFault)
  /-- The head of an answer has come, and the body has not. -/
  | headed (status : UInt16) (headers : List (String × HeaderValue))
  /-- The whole answer has come, or the connection has ended before all of the body had come. -/
  | complete (answer : Answer)
  deriving DecidableEq, Repr

/-- Where a fetch stands when the head of its answer has come. -/
inductive Headed where
  /-- The fetch has ended. -/
  | ended (fetched : Fetched)
  /-- The fetch waits for the body, and ends with it. -/
  | waits (receive : Body → Fetched)

namespace Pending

/-- The head of the answer has come. The document of a successful answer is read as a whole, and so is
the text of an answer that is none. -/
def receive (pending : Pending) (status : UInt16) (headers : List (String × HeaderValue)) : Headed :=
  let answer (body : Body) : Answer := ⟨status, headers, body⟩
  if status = 304 then .ended pending.reuse
  else if status = 401 ∨ status = 403 then .ended (refused (.unauthorized status))
  else if (answer (.whole [])).isSuccess then .waits fun body => accept (answer body)
  else .waits fun body => refused (.status status (answer body).lossyText)

/-- What a fetch comes to, if it is not dropped before. -/
def follow (pending : Pending) : Course → Option Fetched
  | .silent => none
  | .faulty fault => some (refused (.request fault))
  | .headed status headers =>
    match pending.receive status headers with
    | .ended fetched => some fetched
    | .waits _ => none
  | .complete answer =>
    match pending.receive answer.status answer.headers with
    | .ended fetched => some fetched
    | .waits receive => some (receive answer.body)

/-- A fetch whose answer has come ends with the answer. -/
theorem follow_complete (pending : Pending) (answer : Answer) :
    pending.follow (.complete answer) = some (pending.handle (.ok answer)) := by
  obtain ⟨status, headers, body⟩ := answer
  unfold follow receive handle
  by_cases notModified : status = 304
  · simp [notModified]
  by_cases unauthorized : status = 401 ∨ status = 403
  · simp [notModified, unauthorized]
  by_cases success : 200 ≤ status ∧ status ≤ 299
  · simp [notModified, unauthorized, Answer.isSuccess, success]
  · simp [notModified, unauthorized, Answer.isSuccess, success]

end Pending

/-- A fetch that nothing overlaps: what it is told, and the course of its exchange. -/
structure Visit where
  /-- What the source is told. -/
  context : FetchContext
  /-- How far the exchange comes. -/
  course : Course
  deriving DecidableEq, Repr

namespace Fetcher

/-- What a fetch comes to, if it is not dropped, and the fetcher after it. -/
def visit (fetcher : Fetcher) (visit : Visit) : Option Fetched × Fetcher :=
  match (fetcher.capture visit.context).follow visit.course with
  | none => (none, fetcher)
  | some fetched => (some fetched, fetcher.keep fetched)

/-- The fetcher after one fetch upon the other. -/
def visits (fetcher : Fetcher) (visits : List Visit) : Fetcher :=
  visits.foldl (fun fetcher visit => (fetcher.visit visit).2) fetcher

end Fetcher

end LiveFlags.Http
