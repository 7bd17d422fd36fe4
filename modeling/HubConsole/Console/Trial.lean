import HubConsole.Console.Commands
import HubConsole.Session.Manager

namespace HubConsole.Console

open HubConsole.Json HubConsole.Rpc HubConsole.Session

inductive ScriptItem where
  | result (v : Value)
  | error (v : Value)
  /-- The text of an answer, in which `$ID` stands for the id. -/
  | raw (text : String)
  /-- A text that is sent whether or not anything was asked. -/
  | push (text : String)

namespace ScriptItem

/-- Puts the id in for `$ID`. -/
def fillIn (id : List Char) : List Char → List Char
  | '$' :: 'I' :: 'D' :: cs => id ++ fillIn id cs
  | c :: cs => c :: fillIn id cs
  | [] => []

/-- The text that answers the request with an id. -/
def answer (id : Nat) : ScriptItem → String
  | .result v => Value.text (.object [("jsonrpc", .string "2.0"), ("id", .ofNat id), ("result", v)])
  | .error v => Value.text (.object [("jsonrpc", .string "2.0"), ("id", .ofNat id), ("error", v)])
  | .raw text => String.ofList (fillIn (Text.digits id) text.toList)
  | .push text => text

/-- What the hub answers when the script is over. -/
def unknownMethod : ScriptItem :=
  .error (.object [("code", .ofInt (-32601)), ("message", .string "Method not found")])

end ScriptItem

/-- A command carried out with a hub that follows a script, and what can be seen of it. -/
structure Trial where
  config : Config
  now : Time.Instant
  manager : Manager
  script : List ScriptItem
  /-- Whether the hub goes for good when the script is over. -/
  hangUp : Bool
  /-- How many attempts the hub refuses at the start. -/
  refuse : Nat
  /-- Whether the connection was tried. -/
  begun : Bool
  listening : Bool
  requests : List Request
  /-- Pushes and states that no loop has reacted to. -/
  happenings : List Happening
  /-- Replies that no caller has taken. -/
  replies : List (Nat × Reply)
  notices : List Notice
  printed : List String
  warned : List String

namespace Trial

def start (config : Config) (now : Time.Instant) (script : List ScriptItem) (hangUp : Bool)
    (refuse : Nat) : Trial :=
  ⟨config, now, .start config, script, hangUp, refuse, false, false, [], [], [], [], [], []⟩

def observe (t : Trial) : ManagerEffect → Trial
  | .returned ticket reply => { t with replies := t.replies ++ [(ticket, reply)] }
  | .notified notice => { t with notices := t.notices ++ [notice] }
  | .link effect =>
    match effect with
    | .published state => { t with happenings := t.happenings ++ [.state state] }
    | .sent request => { t with requests := t.requests ++ [request] }
    | .replied _ _ => t
    | .notified notice => { t with notices := t.notices ++ [notice] }
    | .delivered _ push => { t with happenings := t.happenings ++ [.push push] }

def play (t : Trial) (events : List ManagerEvent) : Trial :=
  let done := t.manager.run t.config events
  done.2.foldl observe { t with manager := done.1 }

def receive (t : Trial) (text : String) : Trial := t.play [.link (.received text)]

/-- The hub sends what stands in its script before the next answer. -/
def sendPushes (t : Trial) : List ScriptItem → Trial
  | .push text :: rest => (t.receive text).sendPushes rest
  | script => { t with script }

/-- Tries to connect, the first time that something is to be asked or awaited. -/
def begin (t : Trial) : Trial :=
  if t.begun then t
  else
    let sinks : List ManagerEvent :=
      if t.listening then Topic.all.map fun topic => .link (.registered topic 0) else []
    let t := { t with begun := true }.play
      (sinks ++ ManagerEvent.refusals t.refuse ++ ManagerEvent.acceptance)
    t.sendPushes t.script

/-- The hub goes, and refuses every attempt. -/
def leave (t : Trial) : Trial :=
  t.play (.link .lost :: ManagerEvent.refusals (max 1 t.config.maxReconnect))

/-- The hub answers the request with an id, or goes. -/
def respond (t : Trial) (id : Nat) : Trial :=
  match t.script with
  | item :: rest => (t.receive (item.answer id)).sendPushes rest
  | [] => if t.hangUp then t.leave else t.receive (ScriptItem.unknownMethod.answer id)

def takeReply (t : Trial) (ticket : Nat) : Trial × Option Reply :=
  ({ t with replies := t.replies.filter (·.1 != ticket) }, t.replies.lookup ticket)

/-- Calls a method and waits for the reply. A hub that never replies is taken to be gone. -/
def exchange (t : Trial) (method : String) (params : Value) : Trial × Reply :=
  let t := t.begin
  let ticket := t.manager.tickets + 1
  let asked := t.play (ManagerEvent.exchange t.config ticket method params)
  match asked.takeReply ticket with
  | (t, some reply) => (t, reply)
  | (t, none) =>
    match (t.respond t.manager.link.lastId).takeReply ticket with
    | (t, some reply) => (t, reply)
    | (t, none) => ((t.leave.takeReply ticket).1, .error .connectionClosed)

def print (t : Trial) (text : String) : Trial := { t with printed := t.printed ++ [text] }

def flush (t : Trial) : Trial :=
  { t with notices := [], warned := t.warned ++ t.notices.map (·.line) }

/-- Does what a loop wants done; a reply to a request comes back as a happening. -/
def perform (t : Trial) : Deed → Trial
  | .print text => t.print text
  | .raise notice => { t with notices := t.notices ++ [notice] }
  | .fetch token request =>
    let m := Hub.logPage request
    let done := t.exchange m.name m.params
    let happenings := done.1.happenings.drop t.happenings.length
    { done.1 with happenings := t.happenings ++ .reply token request done.2 :: happenings }

/-- The next thing that a loop reacts to. When there is nothing left, time passes; when the script is over,
the hub goes, or the user puts an end to it. -/
def nextHappening (t : Trial) (l : Loop) : Trial × Happening :=
  match t.happenings, l with
  | h :: rest, _ => ({ t with happenings := rest }, h)
  | [], .follow _ => if t.script.isEmpty && !t.hangUp then (t, .interrupted) else (t, .tick t.now)
  | [], .watch _ _ _ =>
    if t.hangUp then
      let t := t.leave
      match t.happenings with
      | h :: rest => ({ t with happenings := rest }, h)
      | [] => (t, .interrupted)
    else (t, .interrupted)

/-- Runs a loop to its end; `fuel` bounds how much can happen. -/
def runLoop (t : Trial) (l : Loop) : Nat → Trial
  | 0 => t
  | fuel + 1 =>
    let next := t.nextHappening l
    let done := l.step next.2
    let t := done.2.foldl perform next.1
    match done.1 with
    | some l => runLoop t l fuel
    | none => t

/-- Enough for everything that a script can make happen. -/
def fuel (t : Trial) : Nat := 8 * (t.script.length + t.happenings.length + t.config.maxReconnect + 4)

/-- Carries a command out. -/
def run (t : Trial) : Dialogue → Trial × Except Failure Unit
  | .done result => (t, result)
  | .print text next => (t.print text).run next
  | .raise notice next => { t with notices := t.notices ++ [notice] }.run next
  | .flush next => t.flush.run next
  | .ask method params next =>
    let done := t.exchange method params
    done.1.run (next done.2)
  | .state next => t.run (next t.manager.state)
  | .listen next => { t with listening := true }.run next
  | .loop l =>
    let t := { t with happenings := t.happenings.filter fun
      | .state _ => false
      | _ => true }
    (t.runLoop l t.fuel, .ok ())
  | .follow b =>
    let begun := Loop.beginFollow b t.now
    let t := begun.2.foldl perform { t with happenings := [] }
    (t.runLoop begun.1 t.fuel, .ok ())

/-- The end: the session is closed and the last notices are shown. -/
def finish (t : Trial) : Trial := (t.play [.link .shutDown]).flush

end Trial
end HubConsole.Console
