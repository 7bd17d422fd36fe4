import HubConsole.Console.View
import HubConsole.Dashboard.Store
import HubConsole.Session.Call

namespace HubConsole.Console

open HubConsole.Dashboard HubConsole.Session

/-- The dashboard together with the log records that were printed of it. -/
structure Board where
  store : Store
  /-- The ids of the log records printed so far. -/
  printed : List String

/-- What a command that keeps running reacts to. -/
inductive Event where
  | push (push : Rpc.Push)
  | logs (token : Nat) (result : CallResult Log.Page)
  | connection (state : State)

namespace Board

def start (now : Time.Instant) : Board := ⟨.start now, []⟩

def updateNetwork (b : Board) (f : NetworkStore → NetworkStore) : Board :=
  { b with store := { b.store with network := f b.store.network } }

def updateLogs (b : Board) (f : LogQuery → LogQuery) : Board :=
  { b with store := { b.store with logs := f b.store.logs } }

def updateGraph (b : Board) (f : GraphWindow → GraphWindow) : Board :=
  { b with store := { b.store with graph := f b.store.graph } }

def setNetwork (b : Board) (n : Network) : Board := { b with store := b.store.setNetwork n }

def setDetail (b : Board) (d : Node.Detail) : Board := { b with store := b.store.setDetail d }

/-- What a push is worth saying. -/
def pushLines (push : Rpc.Push) : PushOutcome → List String
  | .network (some tally) =>
    if tally.added + tally.updated > 0 then
      [s!"network: {Text.natText tally.added} added, {Text.natText tally.updated} updated"]
    else []
  | .node (some changed) =>
    match push with
    | .node update =>
      if changed.isEmpty then []
      else [update.name ++ ": " ++ String.intercalate ", " (changed.map (·.label)) ++ " changed"]
    | .network _ => []
  | .network none | .node none => []

/-- Records not printed yet, each once, and the ids printed then. -/
def unprinted (printed : List String) : List Log.Record → List Log.Record × List String
  | [] => ([], printed)
  | r :: rs =>
    if r.id ∈ printed then unprinted printed rs
    else
      let rest := unprinted (r.id :: printed) rs
      (r :: rest.1, rest.2)

/-- Prints what is new in the buffer, from its end to its start. -/
def printLogs (b : Board) : Board × List String :=
  let new := unprinted b.printed b.store.logs.records.reverse
  ({ b with printed := new.2 }, new.1.map View.logLine)

/-- The board after an event, and the lines to print. -/
def apply (b : Board) : Event → Board × List String
  | .push push =>
    let result := b.store.applyPush push
    ({ b with store := result.1 }, pushLines push result.2)
  | .logs token (.ok (.value page)) =>
    let result := b.store.logs.respond token page.records
    let next := b.updateLogs fun _ => result.1
    if result.2 then next.printLogs else (next, [])
  | .logs token (.ok (.suppressed _)) => (b.updateLogs (·.fetchFailed token), [])
  | .logs token (.error e) =>
    (b.updateLogs (·.fetchFailed token), [s!"log fetch failed: {e.message}"])
  | .connection state => (b, [s!"connection {state.name}"])

end Board
end HubConsole.Console
