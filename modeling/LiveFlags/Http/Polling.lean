import LiveFlags.Client.Step
import LiveFlags.Http.Fetcher

/-!
# Polling over HTTP

A client whose source of flags is a fetcher. When the client begins a poll, the fetcher captures what it
keeps and sends its request; when the exchange has ended, the fetcher handles the outcome and the client
is given the result. A poll that the client gives up on leaves the fetcher as it is. Everything else
happens to the client as it does with any source, except that a fetcher never panics.
-/
namespace LiveFlags.Http

/-- A client that polls through a fetcher. -/
structure Polling where
  /-- The client. -/
  client : Client
  /-- The fetcher. -/
  fetcher : Fetcher
  /-- The fetch in flight. -/
  pending : Option Pending

/-- Something that happens to a client that polls through a fetcher. -/
inductive PollingAction where
  /-- Something that does not come from the source. -/
  | client (action : Action)
  /-- The exchange of the fetch in flight has ended; the draw is for the wait after the poll. -/
  | conclude (outcome : Outcome) (draw : Draw)

namespace Polling

/-- A client that has not been started, and a fetcher. -/
def initial (config : Config) (timerStep : Nat) (fetcher : Fetcher) : Polling :=
  ⟨.initial config timerStep, fetcher, none⟩

/-- The action comes from the source. -/
def isFromSource : Action → Bool
  | .answer _ _ | .panic => true
  | _ => false

/-- The fetch in flight after the client has gone on: a new one if the client has begun one, and none
if the client waits for none. -/
def pendingAfter (polling : Polling) (client : Client) : Option Pending :=
  match client.task with
  | .fetching _ _ =>
    if polling.client.fetches.size < client.fetches.size then
      client.fetches.back?.map fun call => polling.fetcher.capture call.context
    else polling.pending
  | _ => none

/-- The client has gone on by itself. -/
def follow (polling : Polling) (client : Client) : Polling :=
  ⟨client, polling.fetcher, polling.pendingAfter client⟩

/-- The exchange of the fetch in flight ends. -/
def conclude? (polling : Polling) (outcome : Outcome) (draw : Draw) : Option Polling := do
  let pending ← polling.pending
  let (fetched, fetcher) := polling.fetcher.conclude pending outcome
  let client ← (polling.client.logging fetched.events).step (.answer fetched.sourceResult draw)
  return ⟨client, fetcher, none⟩

/-- What follows an action, if it can happen. -/
def step (polling : Polling) : PollingAction → Option Polling
  | .client action =>
    if isFromSource action then none else (polling.client.step action).map polling.follow
  | .conclude outcome draw => polling.conclude? outcome draw

/-- What follows a list of actions, if all of them can happen in this order. -/
def run (polling : Polling) : List PollingAction → Option Polling
  | [] => some polling
  | action :: actions => (polling.step action).bind fun next => next.run actions

end Polling

end LiveFlags.Http
