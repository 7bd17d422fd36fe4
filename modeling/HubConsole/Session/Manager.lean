import HubConsole.Session.Link

namespace HubConsole.Session

open HubConsole.Json HubConsole.Rpc

/-- How looking for the connection ends: `poll` is the state seen each time, `left` how often the caller
looks again. -/
def waitForOpen (poll : Nat → State) (seen left : Nat) : Except CallError Unit :=
  match poll seen, left with
  | .open, _ => .ok ()
  | .closed, _ => .error .closed
  | _, 0 => .error .timeout
  | _, left + 1 => waitForOpen poll (seen + 1) left

inductive Stage where
  /-- Looks for the connection; so many looks are left after the next one. -/
  | looking (left : Nat)
  /-- Has seen the connection open, and is about to queue the call. -/
  | sending
  /-- The call is in the hands of the link. -/
  | queued
  deriving DecidableEq

structure Caller where
  call : Call
  stage : Stage

/-- The callers of a session beside its link. A caller looks for the connection to open, up to a number of times;
once it has seen it open it queues its call and waits for the reply. -/
structure Manager where
  link : Link
  /-- Callers that have no reply, the first one to ask first. -/
  callers : List Caller
  /-- How many tickets were given out. -/
  tickets : Nat

inductive ManagerEvent where
  | asked (method : String) (params : Value)
  /-- The caller with a ticket goes on. -/
  | resumed (ticket : Nat)
  | link (event : LinkEvent)

inductive ManagerEffect where
  | link (effect : LinkEffect)
  /-- What the link replied, or why the call never came so far. -/
  | returned (ticket : Nat) (reply : Reply)
  | notified (notice : Notice)

namespace ManagerEvent

/-- Attempts to connect that the hub refuses. -/
def refusals (n : Nat) : List ManagerEvent :=
  (List.replicate n [.link .attempted, .link .refused]).flatten

/-- An attempt that the hub accepts. -/
def acceptance : List ManagerEvent := [.link .attempted, .link (.connected true)]

/-- A caller asks, and looks as often as it may; then the link sends what is queued. -/
def exchange (config : Config) (ticket : Nat) (method : String) (params : Value) :
    List ManagerEvent :=
  .asked method params :: List.replicate (config.pollAttempts + 2) (.resumed ticket) ++
    [.link (.taken true)]

end ManagerEvent

namespace Manager

def start (config : Config) : Manager := ⟨.start config, [], 0⟩

def state (m : Manager) : State := m.link.state

def caller? (m : Manager) (ticket : Nat) : Option Caller :=
  m.callers.find? fun c => c.call.ticket == ticket

def dismiss (m : Manager) (ticket : Nat) : Manager :=
  { m with callers := m.callers.filter fun c => c.call.ticket != ticket }

def setStage (m : Manager) (ticket : Nat) (stage : Stage) : Manager :=
  { m with
    callers := m.callers.map fun c => if c.call.ticket == ticket then { c with stage } else c }

/-- Hands the replies of a link over to their callers. -/
def absorb (m : Manager) : List LinkEffect → Manager × List ManagerEffect
  | [] => (m, [])
  | .replied ticket reply :: effects =>
    let rest := (m.dismiss ticket).absorb effects
    (rest.1, .returned ticket reply :: rest.2)
  | effect :: effects =>
    let rest := m.absorb effects
    (rest.1, .link effect :: rest.2)

def linkStep (config : Config) (m : Manager) (e : LinkEvent) : Manager × List ManagerEffect :=
  let r := m.link.step config e
  { m with link := r.1 }.absorb r.2

/-- One look at the state of the link. -/
def look (m : Manager) (ticket left : Nat) : Manager × List ManagerEffect :=
  match m.state, left with
  | .open, _ => (m.setStage ticket .sending, [])
  | .closed, _ => (m.dismiss ticket, [.returned ticket (.error .closed)])
  | _, 0 =>
    (m.dismiss ticket, [.notified .hubNotResponding, .returned ticket (.error .timeout)])
  | _, left + 1 => (m.setStage ticket (.looking left), [])

def step (config : Config) (m : Manager) : ManagerEvent → Manager × List ManagerEffect
  | .asked method params =>
    let ticket := m.tickets + 1
    ({ m with
        tickets := ticket
        callers := m.callers ++ [⟨⟨ticket, method, params⟩, .looking config.pollAttempts⟩] }, [])
  | .resumed ticket =>
    match m.caller? ticket with
    | none => (m, [])
    | some c =>
      match c.stage with
      | .looking left => m.look ticket left
      | .sending => (m.setStage ticket .queued).linkStep config (.queued c.call)
      | .queued => (m, [])
  | .link e => m.linkStep config e

/-- All effects of events in a row, and what is left after them. -/
def run (config : Config) (m : Manager) : List ManagerEvent → Manager × List ManagerEffect
  | [] => (m, [])
  | e :: es =>
    let first := m.step config e
    let rest := run config first.1 es
    (rest.1, first.2 ++ rest.2)

theorem run_append (config : Config) (m : Manager) (es fs : List ManagerEvent) :
    m.run config (es ++ fs) =
      (((m.run config es).1.run config fs).1,
        (m.run config es).2 ++ ((m.run config es).1.run config fs).2) := by
  induction es generalizing m with
  | nil => simp [run]
  | cons e es ih => simp [run, ih, List.append_assoc]

end Manager
end HubConsole.Session
