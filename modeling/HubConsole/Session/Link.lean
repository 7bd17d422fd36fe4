import HubConsole.Session.Call
import HubConsole.Session.Config
import HubConsole.Session.State

namespace HubConsole.Session

open HubConsole.Json HubConsole.Rpc

/-- A call as it is queued; the ticket tells its caller. -/
structure Call where
  ticket : Nat
  method : String
  params : Value

/-- What a request in flight was sent for. -/
inductive Entry where
  | call (ticket : Nat)
  | subscription
  deriving DecidableEq

/-- The requests in flight by id. -/
abbrev Pending := List (Nat × Entry)

inductive Phase where
  /-- Between two attempts, or before the first; the milliseconds are the length of the pause. -/
  | waiting (ms : Nat)
  | connecting
  | open (pending : Pending)
  | ended
  deriving DecidableEq

/-- The link to the hub: one connection at a time, opened anew when it is lost until too many attempts in a row
have failed. -/
structure Link where
  phase : Phase
  /-- Calls that are accepted but not sent, the oldest first. -/
  queue : List Call
  /-- The last id that was given out. -/
  lastId : Nat
  /-- Attempts that failed since the last connection. -/
  failures : Nat
  /-- The length of the next pause. -/
  backoffMs : Nat
  /-- Whether the user was ever told that the hub is gone. -/
  announced : Bool
  /-- Where the pushes of a topic go. -/
  sinks : List (Topic × Nat)

/-- What a link meets, one after another; what happens elsewhere at the same time comes in between. Sending can
fail; `sent` tells whether it worked. -/
inductive LinkEvent where
  | queued (call : Call)
  /-- The pause before an attempt is over. -/
  | attempted
  | connected (sent : Bool)
  | refused
  /-- The first call of the queue is taken out to be sent. -/
  | taken (sent : Bool)
  | received (text : String)
  | lost
  | shutDown
  | registered (topic : Topic) (sink : Nat)

inductive LinkEffect where
  | published (state : State)
  | sent (request : Request)
  | replied (ticket : Nat) (reply : Reply)
  | notified (notice : Notice)
  | delivered (sink : Nat) (push : Push)

def maxBackoffMs : Nat := 10000

/-- The pause after a pause. -/
def nextBackoff (ms : Nat) : Nat := min (2 * ms) maxBackoffMs

namespace Pending

/-- The request with an id. -/
def entry? (pending : Pending) (id : Nat) : Option Entry :=
  (pending.find? fun p => p.1 == id).map (·.2)

def erase (pending : Pending) (id : Nat) : Pending := pending.eraseP fun p => p.1 == id

/-- Replies to all calls in flight. -/
def failAll (pending : Pending) (e : CallError) : List LinkEffect :=
  pending.filterMap fun p =>
    match p.2 with
    | .call ticket => some (.replied ticket (.error e))
    | .subscription => none

/-- Ends the request with an id, if there is one in flight. -/
def resolve (pending : Pending) (id : Option Nat) (reply : Reply) : Pending × List LinkEffect :=
  match id with
  | none => (pending, [])
  | some id =>
    match entry? pending id with
    | none => (pending, [])
    | some (.call ticket) => (erase pending id, [.replied ticket reply])
    | some .subscription => (erase pending id, [])

end Pending

namespace Link

def start (config : Config) : Link where
  phase := .waiting 0
  queue := []
  lastId := 0
  failures := 0
  backoffMs := config.reconnectMs
  announced := false
  sinks := []

/-- What others see of the link. -/
def state (l : Link) : State :=
  match l.phase with
  | .waiting _ => .disconnected
  | .connecting => .connecting
  | .open _ => .open
  | .ended => .closed

/-- The requests in flight. -/
def pending (l : Link) : Pending :=
  match l.phase with
  | .open pending => pending
  | _ => []

def failQueue (queue : List Call) (e : CallError) : List LinkEffect :=
  queue.map fun c => .replied c.ticket (.error e)

/-- Pauses before the next attempt. -/
def pause (l : Link) : Link :=
  { l with phase := .waiting l.backoffMs, backoffMs := nextBackoff l.backoffMs }

/-- The end, for good. Calls that are still queued are failed. -/
def finish (l : Link) : Link × List LinkEffect :=
  ({ l with phase := .ended, queue := [] }, .published .closed :: failQueue l.queue .closed)

/-- What the end of a connection means for the calls that are sent or queued. -/
def endConnection (l : Link) (pending : Pending) : Link × List LinkEffect :=
  ({ l with queue := [] },
    pending.failAll .connectionClosed ++ .published .disconnected ::
      failQueue l.queue .connectionClosed)

/-- A connection ends although nobody asked for it. -/
def lose (l : Link) (pending : Pending) : Link × List LinkEffect :=
  let ended := l.endConnection pending
  ({ ended.1.pause with announced := true }, ended.2 ++ [.notified .hubUnreachable])

/-- A connection is made: all pushes are subscribed to, unless that is too long to send. -/
def opened (config : Config) (l : Link) (sent : Bool) : Link × List LinkEffect :=
  let id := l.lastId + 1
  let l := { l with lastId := id, failures := 0, backoffMs := config.reconnectMs }
  let request := Request.subscribe id Topic.all
  if (request.encode config.maxFrameBytes).isOk && sent then
    ({ l with phase := .open [(id, .subscription)] }, [.published .open, .sent request])
  else ({ l with phase := .open [] }, [.published .open])

/-- An attempt fails. The first outage is announced; after too many failures it is the end. -/
def fail (config : Config) (l : Link) : Link × List LinkEffect :=
  let l' := { l with failures := l.failures + 1, announced := true }
  let effects : List LinkEffect :=
    .published .disconnected :: (if l.announced then [] else [.notified .hubUnreachable])
  if config.maxReconnect ≤ l'.failures then
    let ended := l'.finish
    (ended.1, effects ++ .notified (.reconnectExhausted l'.failures) :: ended.2)
  else (l'.pause, effects)

/-- Sends a call, or fails it. -/
def send (config : Config) (l : Link) (pending : Pending) (c : Call) (sent : Bool) :
    Link × List LinkEffect :=
  let id := l.lastId + 1
  let l := { l with lastId := id }
  let request := Request.call id c.method c.params
  match request.encode config.maxFrameBytes with
  | .error e => (l, [.replied c.ticket (.error (.frame e))])
  | .ok _ =>
    if sent then ({ l with phase := .open (pending ++ [(id, .call c.ticket)]) }, [.sent request])
    else
      let rest := l.lose pending
      (rest.1, .replied c.ticket (.error .connectionClosed) :: rest.2)

/-- Passes a push on to the sink of its topic. -/
def deliver (l : Link) (push : Push) : List LinkEffect :=
  match l.sinks.lookup push.topic with
  | some sink => [.delivered sink push]
  | none => []

/-- What a text from the hub does: the requests left in flight, and the effects. A text that is no
frame fails the request that it seems to answer. -/
def receive (config : Config) (l : Link) (pending : Pending) (text : String) :
    Pending × List LinkEffect :=
  match Frame.decode text config.maxFrameBytes with
  | .error e => pending.resolve ((Frame.recoverId? text).bind Id.toNat?) (.error (.frame e))
  | .ok (.response id outcome) => pending.resolve id.toNat? (.ok outcome)
  | .ok (.notification topic params) =>
    match Push.ofNotification topic params with
    | .ok (some push) => (pending, l.deliver push)
    | _ => (pending, [])

/-- Shuts the link down, whatever it is doing. -/
def shutDown (l : Link) : Link × List LinkEffect :=
  match l.phase with
  | .waiting _ | .connecting => l.finish
  | .open pending =>
    let ended := l.endConnection pending
    let finished := ended.1.finish
    (finished.1, ended.2 ++ finished.2)
  | .ended => (l, [])

/-- The next event. One that does not fit the phase changes nothing. -/
def step (config : Config) (l : Link) : LinkEvent → Link × List LinkEffect
  | .queued c =>
    match l.phase with
    | .ended => (l, [.replied c.ticket (.error .closed)])
    | _ => ({ l with queue := l.queue ++ [c] }, [])
  | .attempted =>
    match l.phase with
    | .waiting _ => ({ l with phase := .connecting }, [.published .connecting])
    | _ => (l, [])
  | .connected sent =>
    match l.phase with
    | .connecting => l.opened config sent
    | _ => (l, [])
  | .refused =>
    match l.phase with
    | .connecting => l.fail config
    | _ => (l, [])
  | .taken sent =>
    match l.phase, l.queue with
    | .open pending, c :: queue => { l with queue }.send config pending c sent
    | _, _ => (l, [])
  | .received text =>
    match l.phase with
    | .open pending =>
      let r := l.receive config pending text
      ({ l with phase := .open r.1 }, r.2)
    | _ => (l, [])
  | .lost =>
    match l.phase with
    | .open pending => l.lose pending
    | _ => (l, [])
  | .shutDown => l.shutDown
  | .registered topic sink => ({ l with sinks := (topic, sink) :: l.sinks }, [])

/-- All effects of events in a row, and the link after them. -/
def run (config : Config) (l : Link) : List LinkEvent → Link × List LinkEffect
  | [] => (l, [])
  | e :: es =>
    let first := l.step config e
    let rest := run config first.1 es
    (rest.1, first.2 ++ rest.2)

theorem run_append (config : Config) (l : Link) (es fs : List LinkEvent) :
    l.run config (es ++ fs) =
      (((l.run config es).1.run config fs).1,
        (l.run config es).2 ++ ((l.run config es).1.run config fs).2) := by
  induction es generalizing l with
  | nil => simp [run]
  | cons e es ih => simp [run, ih, List.append_assoc]

end Link
end HubConsole.Session
