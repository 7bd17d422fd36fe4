import HubConsole.Session.Hub
import HubConsole.Session.Manager

namespace HubConsole.Session

open HubConsole.Json HubConsole.Rpc

/-- A call of one of the hub's methods. -/
inductive Ask where
  | value (method : String) (params : Value)
  | network
  | detail (node : String)
  | start (node : String) (option : Node.StartOption)
  | stop (node : String)
  | update (node : String) (upgrade : Node.Upgrade)
  | targets
  | logs (request : Log.PageRequest)
  | traffic (query : Graph.Query)
  | averageTraffic (query : Graph.Query)
  | nodeTraffic (node : String) (query : Graph.Query)

/-- How a call of any method ends; a value is written as a document. -/
inductive Ending where
  | value (v : Value)
  | suppressed (error : CommonError)
  | failed (error : CallError)
  | notStarted (error : StartError)

namespace Ending

def ofAnswer {α : Type} (write : α → Value) : Answer α → Ending
  | .value a => .value (write a)
  | .suppressed e => .suppressed e

def ofCall {α : Type} (write : α → Value) (m : Method α) (reply : Reply) : Ending × List Notice :=
  match m.settle reply with
  | (.ok answer, notices) => (ofAnswer write answer, notices)
  | (.error e, notices) => (.failed e, notices)

end Ending

namespace Ask

/-- The name of the method, and its parameters. -/
def request : Ask → String × Value
  | .value method params => (method, params)
  | .network => (Hub.network.name, Hub.network.params)
  | .detail node => ((Hub.nodeInfo node).name, (Hub.nodeInfo node).params)
  | .start node option => ((Hub.nodeStart node option).name, (Hub.nodeStart node option).params)
  | .stop node => ((Hub.nodeStop node).name, (Hub.nodeStop node).params)
  | .update node upgrade => ((Hub.nodeUpdate node upgrade).name, (Hub.nodeUpdate node upgrade).params)
  | .targets => (Hub.logTargets.name, Hub.logTargets.params)
  | .logs request => ((Hub.logPage request).name, (Hub.logPage request).params)
  | .traffic query => ((Hub.trafficOfAll query).name, (Hub.trafficOfAll query).params)
  | .averageTraffic query =>
    ((Hub.averageTrafficOfAll query).name, (Hub.averageTrafficOfAll query).params)
  | .nodeTraffic node query =>
    ((Hub.trafficOfNode node query).name, (Hub.trafficOfNode node query).params)

/-- How the call ends when the reply is there. -/
def settle (ask : Ask) (reply : Reply) : Ending × List Notice :=
  match ask with
  | .value method params => Ending.ofCall id (Hub.raw method params) reply
  | .network => Ending.ofCall Wire.write Hub.network reply
  | .detail node => Ending.ofCall Wire.write (Hub.nodeInfo node) reply
  | .start node option =>
    match settleStart node option reply with
    | (.ok answer, notices) => (Ending.ofAnswer Wire.write answer, notices)
    | (.error e, notices) => (.notStarted e, notices)
  | .stop node => Ending.ofCall Wire.write (Hub.nodeStop node) reply
  | .update node upgrade => Ending.ofCall (fun _ => .null) (Hub.nodeUpdate node upgrade) reply
  | .targets => Ending.ofCall Wire.write Hub.logTargets reply
  | .logs request => Ending.ofCall Wire.write (Hub.logPage request) reply
  | .traffic query => Ending.ofCall Wire.write (Hub.trafficOfAll query) reply
  | .averageTraffic query => Ending.ofCall Wire.write (Hub.averageTrafficOfAll query) reply
  | .nodeTraffic node query => Ending.ofCall Wire.write (Hub.trafficOfNode node query) reply

end Ask

/-- A step of the script. -/
inductive Act where
  | ask (name : String) (ask : Ask)
  | text (text : String)
  | binary
  | listen (topic : Topic) (sink : String)
  /-- Nobody takes what goes to a sink any more. -/
  | dropSink (sink : String)
  /-- The hub goes, and then refuses so many attempts; or it does not come back. -/
  | leave (refuse : Option Nat)
  | close
  /-- The last handle outside of the calls is given up. -/
  | release

/-- What can be seen of a step. -/
structure Observation where
  /-- Frames that the hub received. -/
  sent : List Request
  /-- Whether a connection was made. -/
  opened : Bool
  endings : List (String × Ending)
  notices : List Notice
  pushes : List (String × Push)

/-- A session with a hub that follows a script. After each step everything has happened that can happen without
the next one. -/
structure Rehearsal where
  config : Config
  manager : Manager
  /-- The calls that have not ended, by ticket. -/
  asks : List (Nat × String × Ask)
  /-- The names of the sinks; a sink goes by its place. -/
  sinks : List String
  droppedSinks : List String
  released : Bool

namespace Observation

def nothing : Observation := ⟨[], false, [], [], []⟩

end Observation

namespace Rehearsal

/-- Adds an effect to what is seen. -/
def observe (r : Rehearsal) (o : Observation) : ManagerEffect → Rehearsal × Observation
  | .returned ticket reply =>
    match r.asks.lookup ticket with
    | none => (r, o)
    | some (name, ask) =>
      let ended := ask.settle reply
      ({ r with asks := r.asks.filter fun a => a.1 != ticket },
        { o with
          endings := o.endings ++ [(name, ended.1)]
          notices := o.notices ++ ended.2 })
  | .notified notice => (r, { o with notices := o.notices ++ [notice] })
  | .link effect =>
    match effect with
    | .published .open => (r, { o with opened := true })
    | .published _ => (r, o)
    | .sent request => (r, { o with sent := o.sent ++ [request] })
    | .replied _ _ => (r, o)
    | .notified notice => (r, { o with notices := o.notices ++ [notice] })
    | .delivered sink push =>
      match r.sinks[sink]? with
      | none => (r, o)
      | some name =>
        if name ∈ r.droppedSinks then (r, o)
        else (r, { o with pushes := o.pushes ++ [(name, push)] })

def observeAll (r : Rehearsal) (o : Observation) (effects : List ManagerEffect) :
    Rehearsal × Observation :=
  effects.foldl (fun state effect => state.1.observe state.2 effect) (r, o)

def play (r : Rehearsal) (o : Observation) (events : List ManagerEvent) : Rehearsal × Observation :=
  let done := r.manager.run r.config events
  { r with manager := done.1 }.observeAll o done.2

/-- Attempts that the hub refuses, and one that it accepts. -/
def attempts (refuse : Nat) : List ManagerEvent :=
  ManagerEvent.refusals refuse ++ ManagerEvent.acceptance

/-- The session at its start, after the hub has refused so many attempts; on hold it does not answer
the first one. -/
def start (config : Config) (refuse : Nat) (hold : Bool) : Rehearsal × Observation :=
  let r : Rehearsal := ⟨config, .start config, [], [], [], false⟩
  r.play .nothing (if hold then [.link .attempted] else attempts refuse)

/-- A session without handles is closed; calls that have not ended hold one each. -/
def closeIfReleased (r : Rehearsal) (o : Observation) : Rehearsal × Observation :=
  if r.released && r.asks.isEmpty then r.play o [.link .shutDown] else (r, o)

/-- Whether a step needs a handle of the session. -/
def needsHandle : Act → Bool
  | .ask _ _ | .listen _ _ | .close | .release => true
  | _ => false

def act (r : Rehearsal) : Act → Rehearsal × Observation
  | .ask name ask =>
    let ticket := r.manager.tickets + 1
    let request := ask.request
    { r with asks := r.asks ++ [(ticket, name, ask)] }.play .nothing
      (ManagerEvent.exchange r.config ticket request.1 request.2)
  | .text text => r.play .nothing [.link (.received text)]
  | .binary => (r, .nothing)
  | .listen topic sink =>
    { r with
      sinks := r.sinks ++ [sink]
      droppedSinks := r.droppedSinks.filter (· != sink) }.play .nothing
        [.link (.registered topic r.sinks.length)]
  | .dropSink sink => ({ r with droppedSinks := sink :: r.droppedSinks }, .nothing)
  | .leave refuse =>
    match r.manager.state, refuse with
    | .open, some n => r.play .nothing (.link .lost :: attempts n)
    | .open, none => r.play .nothing [.link .lost]
    | _, _ => (r, .nothing)
  | .close => r.play .nothing [.link .shutDown]
  | .release => ({ r with released := true }, .nothing)

/-- A step, or nothing if it needs a handle that was given up. -/
def next? (r : Rehearsal) (a : Act) : Option (Rehearsal × Observation) :=
  if r.released && needsHandle a then none
  else
    let done := r.act a
    some (done.1.closeIfReleased done.2)

end Rehearsal
end HubConsole.Session
