import HubConsole.Console.Commands
import HubConsole.Session.Manager
import Std.Time.DateTime.Timestamp

namespace HubConsole.Main

open HubConsole.Console HubConsole.Json HubConsole.Rpc HubConsole.Session

/-- A relay ties standard input and output to the socket of the hub, a frame a line. When the input ends the
connection is lost, and the relay takes no further one. -/
structure Machine where
  config : Config
  manager : Manager
  begun : Bool
  listening : Bool
  /-- Replies that no caller has taken. -/
  replies : List (Nat × Reply)
  /-- Pushes and states that no loop has reacted to. -/
  happenings : List Happening
  notices : List Notice

def say (text : String) : IO Unit := do (← IO.getStderr).putStrLn text

def now : IO Time.Instant := do
  let nanos := (← Std.Time.Timestamp.now).toNanosecondsSinceUnixEpoch.toInt
  return ⟨nanos / 1000000000, (nanos % 1000000000).toNat⟩

namespace Machine

def perform (m : Machine) : ManagerEffect → IO Machine
  | .returned ticket reply => return { m with replies := m.replies ++ [(ticket, reply)] }
  | .notified notice => return { m with notices := m.notices ++ [notice] }
  | .link (.published state) => return { m with happenings := m.happenings ++ [.state state] }
  | .link (.sent request) => do
    let output ← IO.getStdout
    output.putStrLn (Wire.toText request)
    output.flush
    return m
  | .link (.replied _ _) => return m
  | .link (.notified notice) => return { m with notices := m.notices ++ [notice] }
  | .link (.delivered _ push) => return { m with happenings := m.happenings ++ [.push push] }

def play (m : Machine) (events : List ManagerEvent) : IO Machine := do
  let done := m.manager.run m.config events
  done.2.foldlM perform { m with manager := done.1 }

/-- Connects, the first time that the hub is needed. -/
def begin (m : Machine) : IO Machine := do
  if m.begun then return m
  let sinks : List ManagerEvent :=
    if m.listening then Topic.all.map fun topic => .link (.registered topic 0) else []
  { m with begun := true }.play (sinks ++ ManagerEvent.acceptance)

/-- Takes the next frame of the hub, or the end of the connection. -/
def read (m : Machine) : IO Machine := do
  let line ← (← IO.getStdin).getLine
  if line.isEmpty then
    m.play (.link .lost :: ManagerEvent.refusals (max 1 m.config.maxReconnect))
  else m.play [.link (.received line)]

/-- Reads frames until the reply with a ticket is there. -/
partial def await (m : Machine) (ticket : Nat) : IO (Machine × Reply) := do
  match m.replies.lookup ticket with
  | some reply => return ({ m with replies := m.replies.filter (·.1 != ticket) }, reply)
  | none => (← m.read).await ticket

def exchange (m : Machine) (method : String) (params : Value) : IO (Machine × Reply) := do
  let m ← m.begin
  let ticket := m.manager.tickets + 1
  let m ← m.play (ManagerEvent.exchange m.config ticket method params)
  m.await ticket

def flush (m : Machine) : IO Machine := do
  m.notices.forM fun notice => say notice.line
  return { m with notices := [] }

def deed (m : Machine) : Deed → IO Machine
  | .print text => do
    say text
    return m
  | .raise notice => { m with notices := m.notices ++ [notice] }.flush
  | .fetch token request => do
    let method := Hub.logPage request
    let (m, reply) ← m.exchange method.name method.params
    return { m with happenings := .reply token request reply :: m.happenings }

/-- How many milliseconds pass between two looks for new records. -/
def refreshMs : UInt32 := 3000

/-- Waits for something that a loop reacts to. -/
partial def nextHappening (m : Machine) (l : Loop) : IO (Machine × Happening) := do
  let m ← m.flush
  match m.happenings, l with
  | h :: rest, _ => return ({ m with happenings := rest }, h)
  | [], .watch _ _ _ => (← m.read).nextHappening l
  | [], .follow _ => do
    IO.sleep refreshMs
    return (m, .tick (← now))

partial def loop (m : Machine) (l : Loop) : IO Machine := do
  let (m, h) ← m.nextHappening l
  let done := l.step h
  let m ← done.2.foldlM deed m
  match done.1 with
  | some l => m.loop l
  | none => return m

/-- Carries a command out. -/
def run (m : Machine) : Dialogue → IO (Machine × Except Failure Unit)
  | .done result => return (m, result)
  | .print text next => do
    say text
    m.run next
  | .raise notice next => { m with notices := m.notices ++ [notice] }.run next
  | .flush next => do (← m.flush).run next
  | .ask method params next => do
    let (m, reply) ← m.exchange method params
    m.run (next reply)
  | .state next => m.run (next m.manager.state)
  | .listen next => { m with listening := true }.run next
  | .loop l => do
    let states : Happening → Bool
      | .state _ => true
      | _ => false
    let m ← { m with happenings := m.happenings.filter (!states ·) }.loop l
    return (m, .ok ())
  | .follow b => do
    let begun := Loop.beginFollow b (← now)
    let m ← begun.2.foldlM deed { m with happenings := [] }
    return (← m.loop begun.1, .ok ())

end Machine

def environment : IO Environment := do
  return {
    hubUrl := ← IO.getEnv Environment.hubUrlName
    passphrase := ← IO.getEnv Environment.passphraseName
    title := ← IO.getEnv Environment.titleName
    logFileHost := ← IO.getEnv Environment.logFileHostName
    logDir := ← IO.getEnv Environment.logDirName }

/-- Tells why the program ends. -/
def report : List String → IO Unit
  | [] => return
  | [text] => say s!"Error: {text}"
  | text :: causes => do
    say s!"Error: {text}\n\nCaused by:"
    causes.forM fun cause => say s!"    {cause}"

def usage : String :=
  "usage: hub-console network | node info, start, stop, update NAME | logs | targets | " ++
    "graph all, avg, node NAME | rpc METHOD [PARAMS] | watch"

def carryOut (line : CommandLine) : IO UInt32 := do
  let settings := Settings.resolve line.flags (← environment)
  match settings.session.endpoint with
  | .error e =>
    report ["failed to start the hub session", e.message]
    return 1
  | .ok _ =>
    let m : Machine := ⟨settings.session, .start settings.session, false, false, [], [], []⟩
    let (m, result) ← m.run (line.command.dialogue settings (← now))
    discard (← m.play [.link .shutDown]).flush
    match result with
    | .ok _ => return 0
    | .error e =>
      report e.chain
      return 1

end HubConsole.Main

open HubConsole in
def main (args : List String) : IO UInt32 := do
  match Console.CommandLine.parse args with
  | .ok line => Main.carryOut line
  | .error e =>
    Main.say Main.usage
    return if e = .help then 0 else 2
