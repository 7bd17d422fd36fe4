import HubConsole.Rpc.Error

namespace HubConsole.Session

open HubConsole.Rpc

inductive Notice where
  | hubUnreachable
  | hubNotResponding
  | reconnectExhausted (attempts : Nat)
  | agentNotFound
  | nodeNotRunning
  | internalError
  | alreadyRunning (node : String)
  | envParse (node : String)
  | updating (node : String)
  deriving DecidableEq

namespace Notice

def kind : Notice → String
  | .hubUnreachable => "hub_unreachable"
  | .hubNotResponding => "hub_not_responding"
  | .reconnectExhausted _ => "reconnect_exhausted"
  | .agentNotFound => "agent_not_found"
  | .nodeNotRunning => "codechain_not_running"
  | .internalError => "internal_error"
  | .alreadyRunning _ => "already_running"
  | .envParse _ => "env_parse_error"
  | .updating _ => "codechain_updating"

def message : Notice → String
  | .hubUnreachable => "Agent hub is closed."
  | .hubNotResponding => "Agent hub is not responding."
  | .reconnectExhausted attempts =>
    s!"Gave up reconnecting to the agent hub after {Text.natText attempts} attempts."
  | .agentNotFound => "Agent not found"
  | .nodeNotRunning => "CodeChain is not running."
  | .internalError => "Internal error"
  | .alreadyRunning node => s!"{node} is already running."
  | .envParse node => s!"Invalid env string for {node}."
  | .updating node => s!"{node} is updating."

def ofCommon : CommonError → Notice
  | .agentNotFound => .agentNotFound
  | .nodeNotRunning => .nodeNotRunning
  | .internal => .internalError

/-- The notice as it is shown. -/
def line (n : Notice) : String := s!"! {n.message}"

end Notice
end HubConsole.Session
