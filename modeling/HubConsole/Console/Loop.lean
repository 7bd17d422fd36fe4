import HubConsole.Console.Board
import HubConsole.Session.Hub

namespace HubConsole.Console

open HubConsole.Dashboard HubConsole.Session

/-- A command that goes on until it is interrupted or the session ends. -/
inductive Loop where
  | watch (board : Board) (key : Node.SortKey) (descending : Bool)
  | follow (board : Board)

inductive Happening where
  | push (push : Rpc.Push)
  /-- The hub replied to a request for log records. -/
  | reply (token : Nat) (request : Log.PageRequest) (reply : Reply)
  | state (state : State)
  /-- It is time to look for new records. -/
  | tick (now : Time.Instant)
  | interrupted

inductive Deed where
  | print (text : String)
  | raise (notice : Notice)
  /-- To ask for log records; the reply comes as a happening. -/
  | fetch (token : Nat) (request : Log.PageRequest)

namespace Loop

def printAll (lines : List String) : List Deed := lines.map .print

/-- Asks for the newest records. -/
def fetchLogs (b : Board) : Board × List Deed :=
  let b := b.updateLogs (·.beginFetch false)
  (b, [.fetch b.store.logs.lastToken b.store.logs.request])

/-- Starts to follow the logs. -/
def beginFollow (b : Board) (now : Time.Instant) : Loop × List Deed :=
  let r := fetchLogs (b.updateLogs fun q => (q.setAutoRefresh true now).1)
  (.follow r.1, r.2)

/-- The next happening: how it goes on, if it does, and what is done. -/
def step : Loop → Happening → Option Loop × List Deed
  | .watch b key descending, h =>
    let view (b : Board) : Deed :=
      .print (View.networkOrLoading b.store.network.network key descending)
    match h with
    | .push push =>
      let r := b.apply (.push push)
      (some (.watch r.1 key descending), printAll r.2)
    | .state state =>
      let r := b.apply (.connection state)
      if state = .closed then (none, printAll r.2 ++ [view r.1])
      else (some (.watch r.1 key descending), printAll r.2)
    | .interrupted => (none, [view b])
    | .reply _ _ _ | .tick _ => (some (.watch b key descending), [])
  | .follow b, h =>
    match h with
    | .reply token request reply =>
      let settled := (Hub.logPage request).settle reply
      let r := b.apply (.logs token settled.1)
      (some (.follow r.1), settled.2.map .raise ++ printAll r.2)
    | .tick now =>
      let ticked := b.store.logs.tick now
      let b := b.updateLogs fun _ => ticked.1
      if ticked.2 then
        let r := fetchLogs b
        (some (.follow r.1), r.2)
      else (some (.follow b), [])
    | .state state =>
      let r := b.apply (.connection state)
      (if state = .closed then none else some (.follow r.1), printAll r.2)
    | .interrupted => (none, [])
    | .push _ => (some (.follow b), [])

end Loop
end HubConsole.Console
