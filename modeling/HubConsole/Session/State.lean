namespace HubConsole.Session

inductive State where
  | disconnected
  | connecting
  | open
  /-- For good: the session was closed, or gave up. -/
  | closed
  deriving DecidableEq

namespace State

def name : State → String
  | .disconnected => "disconnected"
  | .connecting => "connecting"
  | .open => "open"
  | .closed => "closed"

def all : List State := [.disconnected, .connecting, .open, .closed]

def ofName? (s : String) : Option State := all.find? (·.name == s)

end State
end HubConsole.Session
